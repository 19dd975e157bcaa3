import Enrolment.Text.Table

/-!
# Combining marks

A mark belongs to the character before it.  Marks of different classes that
belong to one character do not disturb each other, so texts that differ in the
order of such marks are one text; the class tells in which order they are
written.  A class of zero keeps a character where it is.

The tables cover the characters that may stand in the name of a host.

## Main definitions

* `isMark` — a mark.
* `combiningClass` — the class of a character.
* `isVirama` — a sign that takes a consonant its vowel.
-/

namespace Enrolment.Text

/-- The code points at which being a mark starts or ends, in turn. -/
def markChanges : Array Nat := #[
  0x300, 0x371, 0x483, 0x48b, 0x591, 0x5be, 0x5bf, 0x5c0, 0x5c1, 0x5c3, 0x5c4, 0x5c6, 0x5c7, 0x5d0,
  0x610, 0x61b, 0x64b, 0x660, 0x670, 0x671, 0x6d6, 0x6de, 0x6df, 0x6e5, 0x6e7, 0x6e9, 0x6ea, 0x6ee,
  0x711, 0x712, 0x730, 0x74d, 0x7a6, 0x7b1, 0x7eb, 0x7f4, 0x7fd, 0x7fe, 0x816, 0x81a, 0x81b, 0x824,
  0x825, 0x828, 0x829, 0x830, 0x859, 0x85e, 0x897, 0x8a0, 0x8ca, 0x904, 0x93a, 0x93d, 0x93e, 0x950,
  0x951, 0x960, 0x962, 0x964, 0x981, 0x985, 0x9bc, 0x9bd, 0x9be, 0x9ce, 0x9d7, 0x9e0, 0x9e2, 0x9e6,
  0x9fe, 0xa05, 0xa3c, 0xa5c, 0xa70, 0xa72, 0xa75, 0xa76, 0xa81, 0xa85, 0xabc, 0xabd, 0xabe, 0xad0,
  0xae2, 0xae6, 0xafa, 0xb05, 0xb3c, 0xb3d, 0xb3e, 0xb5f, 0xb62, 0xb66, 0xb82, 0xb83, 0xbbe, 0xbd0,
  0xbd7, 0xbe6, 0xc00, 0xc05, 0xc3c, 0xc3d, 0xc3e, 0xc58, 0xc62, 0xc66, 0xc81, 0xc84, 0xcbc, 0xcbd,
  0xcbe, 0xcdc, 0xce2, 0xce6, 0xcf3, 0xd04, 0xd3b, 0xd3d, 0xd3e, 0xd4e, 0xd57, 0xd58, 0xd62, 0xd66,
  0xd81, 0xd85, 0xdca, 0xde6, 0xdf2, 0xdf4, 0xe31, 0xe32, 0xe34, 0xe3f, 0xe47, 0xe4f, 0xeb1, 0xeb2,
  0xeb4, 0xebd, 0xec8, 0xed0, 0xf18, 0xf1a, 0xf35, 0xf36, 0xf37, 0xf38, 0xf39, 0xf3a, 0xf3e, 0xf40,
  0xf71, 0xf85, 0xf86, 0xf88, 0xf8d, 0xfbe, 0xfc6, 0xfc7, 0x102b, 0x103f, 0x1056, 0x105a, 0x105e,
  0x1061, 0x1062, 0x1065, 0x1067, 0x106e, 0x1071, 0x1075, 0x1082, 0x108e, 0x108f, 0x1090, 0x109a,
  0x109e, 0x135d, 0x1360, 0x1712, 0x171f, 0x1732, 0x1735, 0x1752, 0x1760, 0x1772, 0x1780, 0x17b6,
  0x17d4, 0x17dd, 0x17e0, 0x1885, 0x1887, 0x18a9, 0x18aa, 0x1920, 0x1940, 0x1a17, 0x1a1e, 0x1a55,
  0x1a80, 0x1ab0, 0x1b05, 0x1b34, 0x1b45, 0x1b6b, 0x1b74, 0x1b80, 0x1b83, 0x1ba1, 0x1bae, 0x1be6,
  0x1bfc, 0x1c24, 0x1c3b, 0x1cd0, 0x1cd3, 0x1cd4, 0x1ce9, 0x1ced, 0x1cee, 0x1cf4, 0x1cf5, 0x1cf7,
  0x1cfa, 0x1dc0, 0x1e01, 0x20d0, 0x2104, 0x2cef, 0x2cf3, 0x2d7f, 0x2d80, 0x2de0, 0x2e00, 0x302a,
  0x3030, 0x3099, 0x309d, 0xa66f, 0xa673, 0xa674, 0xa67e, 0xa69e, 0xa6a0, 0xa6f0, 0xa6f2, 0xa802,
  0xa803, 0xa806, 0xa807, 0xa80b, 0xa80c, 0xa823, 0xa828, 0xa82c, 0xa830, 0xa880, 0xa882, 0xa8b4,
  0xa8ce, 0xa8e0, 0xa8f2, 0xa8ff, 0xa900, 0xa926, 0xa92e, 0xa947, 0xa95f, 0xa980, 0xa984, 0xa9b3,
  0xa9c1, 0xa9e5, 0xa9e6, 0xaa29, 0xaa40, 0xaa43, 0xaa44, 0xaa4c, 0xaa50, 0xaa7b, 0xaa7e, 0xaab0,
  0xaab1, 0xaab2, 0xaab5, 0xaab7, 0xaab9, 0xaabe, 0xaac0, 0xaac1, 0xaac2, 0xaaeb, 0xaaf0, 0xaaf5,
  0xab01, 0xabe3, 0xabeb, 0xabec, 0xabf0, 0xfb1e, 0xfbb2, 0xfe20, 0xfe45, 0x101fd, 0x10280, 0x102e0,
  0x102e1, 0x10376, 0x10380, 0x10a01, 0x10a10, 0x10a38, 0x10a40, 0x10ae5, 0x10aeb, 0x10d24, 0x10d30,
  0x10d69, 0x10d6e, 0x10eab, 0x10ead, 0x10efa, 0x10f00, 0x10f46, 0x10f51, 0x10f82, 0x10f86, 0x11000,
  0x11003, 0x11038, 0x11047, 0x11070, 0x11071, 0x11073, 0x11075, 0x1107f, 0x11083, 0x110b0, 0x110bb,
  0x110c2, 0x110d0, 0x11100, 0x11103, 0x11127, 0x11136, 0x11145, 0x11147, 0x11173, 0x11174, 0x11180,
  0x11183, 0x111b3, 0x111c1, 0x111c9, 0x111cd, 0x111ce, 0x111d0, 0x1122c, 0x11238, 0x1123e, 0x1123f,
  0x11241, 0x11280, 0x112df, 0x112f0, 0x11300, 0x11305, 0x1133b, 0x1133d, 0x1133e, 0x11350, 0x11357,
  0x1135d, 0x11362, 0x11380, 0x113b8, 0x113d1, 0x113d2, 0x113d3, 0x113e1, 0x11400, 0x11435, 0x11447,
  0x1145e, 0x1145f, 0x114b0, 0x114c4, 0x115af, 0x115c1, 0x115dc, 0x11600, 0x11630, 0x11641, 0x116ab,
  0x116b8, 0x1171d, 0x11730, 0x1182c, 0x1183b, 0x11930, 0x1193f, 0x11940, 0x11941, 0x11942, 0x11944,
  0x119d1, 0x119e1, 0x119e4, 0x11a00, 0x11a01, 0x11a0b, 0x11a33, 0x11a3a, 0x11a3b, 0x11a3f, 0x11a47,
  0x11a50, 0x11a51, 0x11a5c, 0x11a8a, 0x11a9a, 0x11b60, 0x11bc0, 0x11c2f, 0x11c40, 0x11c92, 0x11d00,
  0x11d31, 0x11d46, 0x11d47, 0x11d50, 0x11d8a, 0x11d98, 0x11ef3, 0x11ef7, 0x11f00, 0x11f02, 0x11f03,
  0x11f04, 0x11f34, 0x11f43, 0x11f5a, 0x11fb0, 0x13440, 0x13441, 0x13447, 0x13460, 0x1611e, 0x16130,
  0x16af0, 0x16af5, 0x16b30, 0x16b37, 0x16f4f, 0x16f50, 0x16f51, 0x16f93, 0x16fe4, 0x16ff2, 0x1bc9d,
  0x1bc9f, 0x1cf00, 0x1cf50, 0x1d165, 0x1d16a, 0x1d16d, 0x1d183, 0x1d185, 0x1d18c, 0x1d1aa, 0x1d1ae,
  0x1d242, 0x1d245, 0x1da00, 0x1da37, 0x1da3b, 0x1da6d, 0x1da75, 0x1da76, 0x1da84, 0x1da85, 0x1da9b,
  0x1df00, 0x1e000, 0x1e100, 0x1e130, 0x1e137, 0x1e2ae, 0x1e2c0, 0x1e2ec, 0x1e2f0, 0x1e4ec, 0x1e4f0,
  0x1e5ee, 0x1e5f0, 0x1e6e3, 0x1e6e4, 0x1e6e6, 0x1e6e7, 0x1e6ee, 0x1e6f0, 0x1e6f5, 0x1e6fe, 0x1e8d0,
  0x1e922, 0x1e944, 0x1e94b]

/-- The character is a mark. -/
def isMark (c : Char) : Bool := countOf markChanges c.toNat % 2 = 1

/-- The rows of the classes. -/
def combiningLines : List String := [
  "0:0 300:e6 315:e8 316:dc 31a:e8 31b:d8 31c:dc 321:ca 323:dc 327:ca 329:dc 334:1 339:dc 33d:e6",
  "347:dc 34a:e6 34d:dc 350:e6 353:dc 357:e6 358:e8 359:dc 35b:e6 35c:e9 35d:ea 35f:e9 360:ea",
  "362:e9 363:e6 371:0 483:e6 488:0 591:dc 592:e6 596:dc 597:e6 59a:de 59b:dc 59c:e6 5a2:dc",
  "5a8:e6 5aa:dc 5ab:e6 5ad:de 5ae:e4 5af:e6 5b0:a 5b1:b 5b2:c 5b3:d 5b4:e 5b5:f 5b6:10 5b7:11",
  "5b8:12 5b9:13 5bb:14 5bc:15 5bd:16 5be:0 5bf:17 5c0:0 5c1:18 5c2:19 5c3:0 5c4:e6 5c5:dc 5c6:0",
  "5c7:12 5d0:0 610:e6 618:1e 619:1f 61a:20 61b:0 64b:1b 64c:1c 64d:1d 64e:1e 64f:1f 650:20",
  "651:21 652:22 653:e6 655:dc 657:e6 65c:dc 65d:e6 65f:dc 660:0 670:23 671:0 6d6:e6 6de:0",
  "6df:e6 6e3:dc 6e4:e6 6e5:0 6e7:e6 6e9:0 6ea:dc 6eb:e6 6ed:dc 6ee:0 711:24 712:0 730:e6 731:dc",
  "732:e6 734:dc 735:e6 737:dc 73a:e6 73b:dc 73d:e6 73e:dc 73f:e6 742:dc 743:e6 744:dc 745:e6",
  "746:dc 747:e6 748:dc 749:e6 74d:0 7eb:e6 7f2:dc 7f3:e6 7f4:0 7fd:dc 7fe:0 816:e6 81a:0 81b:e6",
  "824:0 825:e6 828:0 829:e6 830:0 859:dc 85e:0 897:e6 899:dc 89c:e6 8a0:0 8ca:e6 8cf:dc 8d4:e6",
  "8e3:dc 8e4:e6 8e6:dc 8e7:e6 8e9:dc 8ea:e6 8ed:dc 8f0:1b 8f1:1c 8f2:1d 8f3:e6 8f6:dc 8f7:e6",
  "8f9:dc 8fb:e6 900:0 93c:7 93d:0 94d:9 94e:0 951:e6 952:dc 953:e6 955:0 9bc:7 9bd:0 9cd:9",
  "9ce:0 9fe:e6 a01:0 a3c:7 a3e:0 a4d:9 a51:0 abc:7 abd:0 acd:9 ad0:0 b3c:7 b3d:0 b4d:9 b55:0",
  "bcd:9 bd0:0 c3c:7 c3d:0 c4d:9 c55:54 c56:5b c58:0 cbc:7 cbd:0 ccd:9 cd5:0 d3b:9 d3d:0 d4d:9",
  "d4e:0 dca:9 dcf:0 e38:67 e3a:9 e3f:0 e48:6b e4c:0 eb8:76 eba:9 ebb:0 ec8:7a ecc:0 f18:dc",
  "f1a:0 f35:dc f36:0 f37:dc f38:0 f39:d8 f3a:0 f71:81 f72:82 f74:84 f7a:82 f7e:0 f80:82 f82:e6",
  "f84:9 f85:0 f86:e6 f88:0 fc6:dc fc7:0 1037:7 1038:0 1039:9 103b:0 108d:dc 108e:0 135d:e6",
  "1360:0 1714:9 171f:0 1734:9 1735:0 17d2:9 17d3:0 17dd:e6 17e0:0 18a9:e4 18aa:0 1939:de",
  "193a:e6 193b:dc 1940:0 1a17:e6 1a18:dc 1a19:0 1a60:9 1a61:0 1a75:e6 1a7f:dc 1a80:0 1ab0:e6",
  "1ab5:dc 1abb:e6 1abd:dc 1abe:0 1abf:dc 1ac1:e6 1ac3:dc 1ac5:e6 1aca:dc 1acb:e6 1add:dc",
  "1ae0:e6 1ae6:dc 1ae7:e6 1aeb:ea 1b00:0 1b34:7 1b35:0 1b44:9 1b45:0 1b6b:e6 1b6c:dc 1b6d:e6",
  "1b74:0 1baa:9 1bac:0 1be6:7 1be7:0 1bf2:9 1bfc:0 1c37:7 1c3b:0 1cd0:e6 1cd3:0 1cd4:1 1cd5:dc",
  "1cda:e6 1cdc:dc 1ce0:e6 1ce1:0 1ce2:1 1ce9:0 1ced:dc 1cee:0 1cf4:e6 1cf5:0 1cf8:e6 1cfa:0",
  "1dc0:e6 1dc2:dc 1dc3:e6 1dca:dc 1dcb:e6 1dcd:ea 1dce:d6 1dcf:dc 1dd0:ca 1dd1:e6 1df6:e8",
  "1df7:e4 1df9:dc 1dfa:da 1dfb:e6 1dfc:e9 1dfd:dc 1dfe:e6 1dff:dc 1e01:0 20d0:e6 20d2:1 20d4:e6",
  "20d8:1 20db:e6 20dd:0 20e1:e6 20e2:0 20e5:1 20e7:e6 20e8:dc 20e9:e6 20ea:1 20ec:dc 20f0:e6",
  "2104:0 2cef:e6 2cf3:0 2d7f:9 2d80:0 2de0:e6 2e00:0 302a:da 302b:e4 302c:e8 302d:de 302e:e0",
  "3030:0 3099:8 309d:0 a66f:e6 a670:0 a674:e6 a67e:0 a69e:e6 a6a0:0 a6f0:e6 a6f2:0 a806:9",
  "a807:0 a82c:9 a830:0 a8c4:9 a8c5:0 a8e0:e6 a8f2:0 a92b:dc a92e:0 a953:9 a95f:0 a9b3:7 a9b4:0",
  "a9c0:9 a9c1:0 aab0:e6 aab1:0 aab2:e6 aab4:dc aab5:0 aab7:e6 aab9:0 aabe:e6 aac0:0 aac1:e6",
  "aac2:0 aaf6:9 ab01:0 abed:9 abf0:0 fb1e:1a fbb2:0 fe20:e6 fe27:dc fe2e:e6 fe45:0 101fd:dc",
  "10280:0 102e0:dc 102e1:0 10376:e6 10380:0 10a0d:dc 10a0e:0 10a0f:e6 10a10:0 10a38:e6 10a39:1",
  "10a3a:dc 10a3f:9 10a40:0 10ae5:e6 10ae6:dc 10aeb:0 10d24:e6 10d30:0 10d69:e6 10d6e:0 10eab:e6",
  "10ead:0 10efa:dc 10efc:0 10efd:dc 10f00:0 10f46:dc 10f48:e6 10f4b:dc 10f4c:e6 10f4d:dc",
  "10f51:0 10f82:e6 10f83:dc 10f84:e6 10f85:dc 10f86:0 11046:9 11047:0 11070:9 11071:0 1107f:9",
  "11080:0 110b9:9 110ba:7 110bb:0 11100:e6 11103:0 11133:9 11136:0 11173:7 11174:0 111c0:9",
  "111c1:0 111ca:7 111cb:0 11235:9 11236:7 11237:0 112e9:7 112ea:9 112f0:0 1133b:7 1133d:0",
  "1134d:9 11350:0 11366:e6 11380:0 113ce:9 113d1:0 11442:9 11443:0 11446:7 11447:0 1145e:e6",
  "1145f:0 114c2:9 114c3:7 114c4:0 115bf:9 115c0:7 115c1:0 1163f:9 11640:0 116b6:9 116b7:7",
  "116b8:0 1172b:9 11730:0 11839:9 1183a:7 1183b:0 1193d:9 1193f:0 11943:7 11944:0 119e0:9",
  "119e1:0 11a34:9 11a35:0 11a47:9 11a50:0 11a99:9 11a9a:0 11c3f:9 11c40:0 11d42:7 11d43:0",
  "11d44:9 11d46:0 11d97:9 11d98:0 11f41:9 11f43:0 1612f:9 16130:0 16af0:1 16af5:0 16b30:e6",
  "16b37:0 16ff0:6 16ff2:0 1bc9e:1 1bc9f:0 1d165:d8 1d167:1 1d16a:0 1d16d:e2 1d16e:d8 1d17b:dc",
  "1d183:0 1d185:e6 1d18a:dc 1d18c:0 1d1aa:e6 1d1ae:0 1d242:e6 1d245:0 1e000:e6 1e100:0 1e130:e6",
  "1e137:0 1e2ae:e6 1e2c0:0 1e2ec:e6 1e2f0:0 1e4ec:e8 1e4ee:dc 1e4ef:e6 1e4f0:0 1e5ee:e6",
  "1e5ef:dc 1e5f0:0 1e6e3:e6 1e6e4:0 1e6e6:e6 1e6e7:0 1e6ee:e6 1e6f0:0 1e6f5:e6 1e6fe:0 1e8d0:dc",
  "1e922:0 1e944:e6 1e94a:7 1e94b:0"]

/-- The classes. -/
def combiningClasses : Table Nat := .ofLines readHex? combiningLines

/-- The class of a character. -/
def combiningClass (c : Char) : Nat := (combiningClasses.value? c).getD 0

/-- The character takes the consonant before it its vowel. -/
def isVirama (c : Char) : Bool := combiningClass c = 9

end Enrolment.Text
