import Enrolment.Text.Table

/-!
# The direction of writing

Some scripts are written from the right to the left.  A name that holds a
character of such a script is read without doubt only if each of its labels runs
in one direction: it starts with a letter, all that it holds fits its direction,
and it ends in a letter or a number, apart from marks.

## Main definitions

* `Direction`, `direction` — the part that a character plays.
* `goesRight`, `runsInOneDirection` — a character that makes a name a matter of
  direction, and the rule for the labels of such a name.
-/

namespace Enrolment.Domain

/-- The part that a character plays in the direction of a text. -/
inductive Direction
  /-- A letter of a script that is written from the left. -/
  | left
  /-- A letter of a script that is written from the right. -/
  | right
  /-- A number of the Arabic script. -/
  | arabicNumber
  /-- A number of Europe. -/
  | number
  /-- A mark, which follows the character before it. -/
  | mark
  /-- Anything else. -/
  | neutral
  deriving DecidableEq, Repr

/-- A direction as the table writes it. -/
def Direction.read? : List Char → Option Direction
  | ['L'] => some .left
  | ['R'] => some .right
  | ['A'] => some .arabicNumber
  | ['E'] => some .number
  | ['M'] => some .mark
  | ['O'] => some .neutral
  | _ => none

/-- The rows of the table. -/
def directionLines : List String := [
  "0:O 30:E 3a:O 61:L 7b:O df:L f7:O f8:L 2b9:O 2bb:L 2c2:O 2d0:L 2d2:O 2ee:L 2ef:O 300:M 371:L",
  "375:O 377:L 3f6:O 3f8:L 483:M 48b:L 58a:O 591:M 5be:R 5bf:M 5c0:R 5c1:M 5c3:R 5c4:M 5c6:R",
  "5c7:M 5d0:R 606:O 608:R 609:O 60b:R 60c:O 60d:R 60e:O 610:M 61b:R 64b:M 660:A 66a:O 66b:A",
  "66d:R 670:M 671:R 6d6:M 6de:O 6df:M 6e5:R 6e7:M 6e9:O 6ea:M 6ee:R 6f0:E 6fa:R 711:M 712:R",
  "730:M 74d:R 7a6:M 7b1:R 7eb:M 7f4:R 7f6:O 7fa:R 7fd:M 7fe:R 816:M 81a:R 81b:M 824:R 825:M",
  "828:R 829:M 830:R 859:M 85e:R 897:M 8a0:R 8ca:M 903:L 93a:M 93b:L 93c:M 93d:L 941:M 949:L",
  "94d:M 94e:L 951:M 960:L 962:M 964:L 981:M 982:L 9bc:M 9bd:L 9c1:M 9c7:L 9cd:M 9ce:L 9e2:M",
  "9e6:L 9f2:O 9f4:L 9fb:O 9fc:L 9fe:M a03:L a3c:M a3e:L a41:M a5c:L a70:M a72:L a75:M a76:L",
  "a81:M a83:L abc:M abd:L ac1:M ac9:L acd:M ad0:L ae2:M ae6:L af1:O af9:L afa:M b02:L b3c:M",
  "b3d:L b3f:M b40:L b41:M b47:L b4d:M b57:L b62:M b66:L b82:M b83:L bc0:M bc1:L bcd:M bd0:L",
  "bf3:O c00:M c01:L c04:M c05:L c3c:M c3d:L c3e:M c41:L c46:M c58:L c62:M c66:L c78:O c7f:L",
  "c81:M c82:L cbc:M cbd:L ccc:M cd5:L ce2:M ce6:L d00:M d02:L d3b:M d3d:L d41:M d46:L d4d:M",
  "d4e:L d62:M d66:L d81:M d82:L dca:M dcf:L dd2:M dd8:L e31:M e32:L e34:M e3f:O e40:L e47:M",
  "e4f:L eb1:M eb2:L eb4:M ebd:L ec8:M ed0:L f18:M f1a:L f35:M f36:L f37:M f38:L f39:M f3a:O",
  "f3e:L f71:M f7f:L f80:M f85:L f86:M f88:L f8d:M fbe:L fc6:M fc7:L 102d:M 1031:L 1032:M 1038:L",
  "1039:M 103b:L 103d:M 103f:L 1058:M 105a:L 105e:M 1061:L 1071:M 1075:L 1082:M 1083:L 1085:M",
  "1087:L 108d:M 108e:L 109d:M 109e:L 135d:M 1360:L 1390:O 13a0:L 1400:O 1401:L 169b:O 16a0:L",
  "1712:M 1715:L 1732:M 1734:L 1752:M 1760:L 1772:M 1780:L 17b7:M 17be:L 17c6:M 17c7:L 17c9:M",
  "17d4:L 17db:O 17dc:L 17dd:M 17e0:L 17f0:O 1810:L 1885:M 1887:L 18a9:M 18aa:L 1920:M 1923:L",
  "1927:M 1929:L 1932:M 1933:L 1939:M 1940:O 1946:L 19de:O 1a00:L 1a17:M 1a19:L 1a1b:M 1a1e:L",
  "1a56:M 1a57:L 1a58:M 1a61:L 1a62:M 1a63:L 1a65:M 1a6d:L 1a73:M 1a80:L 1ab0:M 1b04:L 1b34:M",
  "1b35:L 1b36:M 1b3b:L 1b3c:M 1b3d:L 1b42:M 1b43:L 1b6b:M 1b74:L 1b80:M 1b82:L 1ba2:M 1ba6:L",
  "1ba8:M 1baa:L 1bab:M 1bae:L 1be6:M 1be7:L 1be8:M 1bea:L 1bed:M 1bee:L 1bef:M 1bf2:L 1c2c:M",
  "1c34:L 1c36:M 1c3b:L 1cd0:M 1cd3:L 1cd4:M 1ce1:L 1ce2:M 1ce9:L 1ced:M 1cee:L 1cf4:M 1cf5:L",
  "1cf8:M 1cfa:L 1dc0:M 1e01:L 200c:O 20d0:M 2104:O 214e:L 218a:O 2336:L 237b:O 2395:L 2396:O",
  "26ac:L 26ad:O 2800:L 2900:O 2c30:L 2ce5:O 2cec:L 2cef:M 2cf3:L 2cf9:O 2d00:L 2d7f:M 2d80:L",
  "2de0:M 2e00:O 3005:L 3008:O 3021:L 302a:M 302e:L 3030:O 3031:L 3037:O 303b:L 303d:O 3041:L",
  "3099:M 309d:L 30a0:O 30a1:L 30fb:O 30fc:L 31c0:O 31f0:L 4dc0:O 4e00:L a490:O a4d0:L a60d:O",
  "a610:L a66f:M a673:O a674:M a67e:O a681:L a69e:M a6a0:L a6f0:M a6f2:L a700:O a723:L a788:O",
  "a789:L a802:M a803:L a806:M a807:L a80b:M a80c:L a825:M a827:L a828:O a82c:M a830:L a838:O",
  "a840:L a874:O a880:L a8c4:M a8ce:L a8e0:M a8f2:L a8ff:M a900:L a926:M a92e:L a947:M a952:L",
  "a980:M a983:L a9b3:M a9b4:L a9b6:M a9ba:L a9bc:M a9be:L a9e5:M a9e6:L aa29:M aa2f:L aa31:M",
  "aa33:L aa35:M aa40:L aa43:M aa44:L aa4c:M aa4d:L aa7c:M aa7d:L aab0:M aab1:L aab2:M aab5:L",
  "aab7:M aab9:L aabe:M aac0:L aac1:M aac2:L aaec:M aaee:L aaf6:M ab01:L ab6a:O abc0:L abe5:M",
  "abe6:L abe8:M abe9:L abed:M abf0:L fb1e:M fbb2:R fbc3:O fe20:M fe45:O fe73:R 10000:L 10101:O",
  "10102:L 10140:O 1018d:L 10190:O 101d0:L 101fd:M 10280:L 102e0:M 102e1:E 10300:L 10376:M",
  "10380:L 10800:R 1091f:O 10920:R 10a01:M 10a10:R 10a38:M 10a40:R 10ae5:M 10aeb:R 10b39:O",
  "10b40:R 10d24:M 10d30:A 10d40:R 10d69:M 10d6e:O 10d6f:R 10e60:A 10e80:R 10eab:M 10ead:R",
  "10ed0:O 10efa:M 10f00:R 10f46:M 10f51:R 10f82:M 10f86:R 11000:L 11001:M 11002:L 11038:M",
  "11047:L 11052:O 11066:L 11070:M 11071:L 11073:M 11075:L 1107f:M 11082:L 110b3:M 110b7:L",
  "110b9:M 110bb:L 110c2:M 110d0:L 11100:M 11103:L 11127:M 1112c:L 1112d:M 11136:L 11173:M",
  "11174:L 11180:M 11182:L 111b6:M 111bf:L 111c9:M 111cd:L 111cf:M 111d0:L 1122f:M 11232:L",
  "11234:M 11235:L 11236:M 11238:L 1123e:M 1123f:L 11241:M 11280:L 112df:M 112e0:L 112e3:M",
  "112f0:L 11300:M 11302:L 1133b:M 1133d:L 11340:M 11341:L 11366:M 11380:L 113bb:M 113c2:L",
  "113ce:M 113cf:L 113d0:M 113d1:L 113d2:M 113d3:L 113e1:M 11400:L 11438:M 11440:L 11442:M",
  "11445:L 11446:M 11447:L 1145e:M 1145f:L 114b3:M 114b9:L 114ba:M 114bb:L 114bf:M 114c1:L",
  "114c2:M 114c4:L 115b2:M 115b8:L 115bc:M 115be:L 115bf:M 115c1:L 115dc:M 11600:L 11633:M",
  "1163b:L 1163d:M 1163e:L 1163f:M 11641:L 11660:O 11680:L 116ab:M 116ac:L 116ad:M 116ae:L",
  "116b0:M 116b6:L 116b7:M 116b8:L 1171d:M 1171e:L 1171f:M 11720:L 11722:M 11726:L 11727:M",
  "11730:L 1182f:M 11838:L 11839:M 1183b:L 1193b:M 1193d:L 1193e:M 1193f:L 11943:M 11944:L",
  "119d4:M 119dc:L 119e0:M 119e1:L 11a01:M 11a07:L 11a09:M 11a0b:L 11a33:M 11a39:L 11a3b:M",
  "11a3f:L 11a47:M 11a50:L 11a51:M 11a57:L 11a59:M 11a5c:L 11a8a:M 11a97:L 11a98:M 11a9a:L",
  "11b60:M 11b61:L 11b62:M 11b65:L 11b66:M 11b67:L 11c30:M 11c3e:L 11c92:M 11ca9:L 11caa:M",
  "11cb1:L 11cb2:M 11cb4:L 11cb5:M 11d00:L 11d31:M 11d46:L 11d47:M 11d50:L 11d90:M 11d93:L",
  "11d95:M 11d96:L 11d97:M 11d98:L 11ef3:M 11ef5:L 11f00:M 11f02:L 11f36:M 11f3e:L 11f40:M",
  "11f41:L 11f42:M 11f43:L 11f5a:M 11fb0:L 11fd5:O 11fff:L 13440:M 13441:L 13447:M 13460:L",
  "1611e:M 1612a:L 1612d:M 16130:L 16af0:M 16af5:L 16b30:M 16b37:L 16f4f:M 16f50:L 16f8f:M",
  "16f93:L 16fe2:O 16fe3:L 16fe4:M 16ff0:L 1bc9d:M 1bc9f:L 1cc00:O 1cf00:M 1cf50:L 1d167:M",
  "1d16a:L 1d17b:M 1d183:L 1d185:M 1d18c:L 1d1aa:M 1d1ae:L 1d1e9:O 1d242:M 1d245:O 1d2c0:L",
  "1d300:O 1d360:L 1da00:M 1da37:L 1da3b:M 1da6d:L 1da75:M 1da76:L 1da84:M 1da85:L 1da9b:M",
  "1df00:L 1e000:M 1e100:L 1e130:M 1e137:L 1e2ae:M 1e2c0:L 1e2ec:M 1e2f0:L 1e2ff:O 1e4d0:L",
  "1e4ec:M 1e4f0:L 1e5ee:M 1e5f0:L 1e6e3:M 1e6e4:L 1e6e6:M 1e6e7:L 1e6ee:M 1e6f0:L 1e6f5:M",
  "1e6fe:L 1e800:R 1e8d0:M 1e922:R 1e944:M 1e94b:R 1eef0:O 1f150:L 1f16d:O 1f170:L 1f1ad:O",
  "1f1e6:L 1f260:O 20000:L"]

/-- The table. -/
def directions : Text.Table Direction := .ofLines Direction.read? directionLines

/-- The part that a character plays. -/
def direction (c : Char) : Direction := (directions.value? c).getD .left

/-- The character makes the direction of a name a matter of rules. -/
def goesRight (c : Char) : Bool := direction c = .right || direction c = .arabicNumber

/-- The parts of a label that starts with a letter from the left fit. -/
def fitsLeft (ds : List Direction) : Bool :=
  ds.all (fun d => d ≠ .right && d ≠ .arabicNumber) &&
    match (ds.reverse.dropWhile (· = .mark)).head? with
    | some d => d = .left || d = .number
    | none => true

/-- The parts of a label that starts with a letter from the right fit. -/
def fitsRight (ds : List Direction) : Bool :=
  ds.all (· ≠ .left) && !(ds.contains .number && ds.contains .arabicNumber) &&
    match (ds.reverse.dropWhile (· = .mark)).head? with
    | some d => d ≠ .neutral
    | none => true

/-- The label runs in one direction. -/
def runsInOneDirection (label : List Char) : Bool :=
  let ds := label.map direction
  match ds with
  | [] => true
  | .left :: _ => fitsLeft ds
  | .right :: _ => fitsRight ds
  | _ => false

end Enrolment.Domain
