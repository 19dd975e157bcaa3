import Enrolment.Proofs.Alone
import Enrolment.Proofs.Steps
import Enrolment.Proofs.Texts.Base64
import Enrolment.Proofs.Texts.Padding
import Enrolment.Proofs.Texts.Parts

/-!
# The header of a signed request, read back

The header names the signer between quotes and separates its parameters by
commas, and escapes neither.  An identity that may be registered holds no bar,
but it may hold commas and quotes, so its header need not be read back: the
header comes back as it was made exactly for the identities without a comma
whose subscriber does not begin with a quote.  Everything else in the header,
the period and the signature, is always read back.

## Main definitions

* `Authorization.parameters` — the parameters of a header with their names.

## Main statements

* `Authorization.read_text` — a header without commas in its identity is read
  back, less the quotes at its front.
* `Authorization.no_comma_of_read` — no header is read as an identity with a
  comma.
* `Keys.read_authorize_iff` — which headers come back as they were made.
-/

namespace Enrolment

/-! ## Seconds -/

theorem Date.daysSinceEpoch_bounds (d : Date) :
    -100000000 ≤ d.daysSinceEpoch ∧ d.daysSinceEpoch ≤ 100000000 := by
  obtain ⟨year, month, day, hd⟩ := d
  simp only [isDate, isYear, Bool.and_eq_true, decide_eq_true_eq] at hd
  obtain ⟨⟨⟨hlow, hhigh⟩, hm, hm'⟩, hday, hday'⟩ := hd
  have hdays : daysInMonth year month ≤ 31 := by
    unfold daysInMonth
    repeat' split
    all_goals decide
  simp only [daysSinceEpoch, Int.fdiv_eq_ediv_of_nonneg _ (by decide : (0 : Int) ≤ 400)]
  split <;> omega

/-- A signed word of 64 bits holds the seconds of every moment, with room for
the time that a signature holds. -/
theorem Moment.unixSeconds_bounds (t : Moment) :
    -10000000000000 ≤ t.unixSeconds ∧ t.unixSeconds ≤ 10000000000000 := by
  have hd := t.date.daysSinceEpoch_bounds
  have hh := t.hour_lt
  have hm := t.minute_lt
  have hs := t.second_lt
  unfold unixSeconds
  omega

/-! ## Identities -/

theorem no_bar_of_checkPart {field : Field} {s : String} (h : checkPart field s = .ok ()) :
    '|' ∉ s.toList := by
  obtain ⟨-, -, hbar⟩ := bind_eq_ok_iff.1 h
  intro hmem
  rw [if_pos hmem] at hbar
  cases hbar

/-- A bar stands in neither part of an identity that may be registered. -/
theorem Identity.no_bar {i : Identity} (h : i.check = .ok ()) :
    '|' ∉ i.subscriberId.toList ∧ '|' ∉ i.keyId.toList := by
  obtain ⟨_, hs, hk⟩ := bind_eq_ok_iff.1 h
  exact ⟨no_bar_of_checkPart hs, no_bar_of_checkPart hk⟩

/-- The identity without the quotes at its front. -/
def Identity.unquoted (i : Identity) : Identity :=
  ⟨String.ofList (i.subscriberId.toList.dropWhile (· == '"')), i.keyId⟩

theorem Identity.unquoted_eq_iff {i : Identity} :
    i.unquoted = i ↔ i.subscriberId.toList.head? ≠ some '"' := by
  obtain ⟨subscriberId, keyId⟩ := i
  rw [unquoted, Identity.mk.injEq, and_iff_left rfl, ← String.toList_inj, String.toList_ofList]
  cases subscriberId.toList with
  | nil => simp
  | cons c cs =>
    by_cases hc : c = '"'
    · subst hc
      have hlength := (List.dropWhile_sublist (l := cs) (· == '"')).length_le
      rw [List.dropWhile_cons_of_pos (by simp)]
      constructor
      · intro heq
        rw [heq, List.length_cons] at hlength
        omega
      · intro hne
        exact absurd rfl hne
    · simp [hc]

namespace Authorization

open Text

/-! ## Parameters -/

/-- The parameters of a header with their names. -/
def parameters (a : Authorization) : List (String × String) :=
  [("keyId", a.identity.subscriberId ++ "|" ++ a.identity.keyId ++ "|" ++ algorithm),
    ("algorithm", algorithm), ("created", integerText a.created),
    ("expires", integerText a.expires), ("headers", signedHeaders),
    ("signature", Base64.encode a.signature)]

theorem toList_parameter (name value : String) :
    (parameter name value).toList = name.toList ++ '=' :: ('"' :: value.toList ++ ['"']) := by
  simp [parameter]

/-- A parameter that is written is read, with the value between its quotes. -/
theorem readParameter_parameter {name value : String}
    (hname : name.toList.head?.map isBlank = some false) (he : '=' ∉ name.toList) :
    readParameter (parameter name value).toList =
      some (name, stripBoth '"' ('"' :: value.toList ++ ['"'])) := by
  have htrim : trim (parameter name value).toList = (parameter name value).toList := by
    obtain ⟨first, hhead, hfirst⟩ := Option.map_eq_some_iff.1 hname
    have hlast : (parameter name value).toList.getLast? = some '"' := by
      rw [toList_parameter, ← List.cons_append, ← List.append_assoc]
      exact List.getLast?_concat
    refine trim_eq_self (fun c hc => ?_) fun c hc => ?_
    · obtain rfl : first = c := by simpa [toList_parameter, hhead] using hc
      exact hfirst
    · obtain rfl : '"' = c := by simpa [hlast] using hc
      rfl
  rw [readParameter, htrim, toList_parameter, cutAt_append_sep he, Option.map_some]
  simp only [String.ofList_toList]

/-- The names of the parameters are read as they are. -/
theorem name_of_mem_parameters {a : Authorization} {p : String × String} (h : p ∈ a.parameters) :
    p.1.toList.head?.map isBlank = some false ∧ '=' ∉ p.1.toList ∧ ',' ∉ p.1.toList := by
  have hnames : ∀ name ∈ ["keyId", "algorithm", "created", "expires", "headers", "signature"],
      name.toList.head?.map isBlank = some false ∧ '=' ∉ name.toList ∧ ',' ∉ name.toList := by
    decide
  exact hnames p.1 (List.mem_map_of_mem h)

/-- The parameters that are written are read. -/
theorem filterMap_readParameter (a : Authorization) :
    (a.parameters.map fun p => (parameter p.1 p.2).toList).filterMap readParameter =
      a.parameters.map fun p => (p.1, stripBoth '"' ('"' :: p.2.toList ++ ['"'])) := by
  rw [List.filterMap_map, ← List.filterMap_eq_map]
  refine List.filterMap_congr ?_
  intro p hp
  obtain ⟨hname, he, -⟩ := name_of_mem_parameters hp
  exact readParameter_parameter hname he

/-- Commas stand in the identity only. -/
theorem no_comma_of_mem_parameters {a : Authorization}
    (hs : ',' ∉ a.identity.subscriberId.toList) (hk : ',' ∉ a.identity.keyId.toList)
    {p : String × String} (h : p ∈ a.parameters) : ',' ∉ (parameter p.1 p.2).toList := by
  have hvalue : ',' ∉ p.2.toList := by
    simp only [parameters, List.mem_cons, List.not_mem_nil, or_false] at h
    rcases h with rfl | rfl | rfl | rfl | rfl | rfl
    · simp [hs, hk, algorithm]
    · decide
    · intro hmem
      rcases integerText_chars hmem with hdigit | hminus
      · cases hdigit
      · cases hminus
    · intro hmem
      rcases integerText_chars hmem with hdigit | hminus
      · cases hdigit
      · cases hminus
    · decide
    · intro hmem
      rcases Base64.encode_chars hmem with h | h | h | h <;> cases h
  have hname := (name_of_mem_parameters h).2.2
  rw [toList_parameter]
  simp [hname, hvalue]

/-- A header without commas in its identity is cut into its parameters. -/
theorem fields_text {a : Authorization} (hs : ',' ∉ a.identity.subscriberId.toList)
    (hk : ',' ∉ a.identity.keyId.toList) :
    ∃ rest, afterPrefix "Signature ".toList a.text.toList = some rest ∧
      fields ',' rest = a.parameters.map fun p => (parameter p.1 p.2).toList := by
  have htext : a.text =
      "Signature " ++ ",".intercalate (a.parameters.map fun p => parameter p.1 p.2) := rfl
  refine ⟨(",".intercalate (a.parameters.map fun p => parameter p.1 p.2)).toList, ?_, ?_⟩
  · rw [htext, String.toList_append, afterPrefix_append]
  · have hlist : (",".intercalate (a.parameters.map fun p => parameter p.1 p.2)).toList =
        [','].intercalate (a.parameters.map fun p => (parameter p.1 p.2).toList) := by
      rw [String.toList_intercalate, List.map_map]
      rfl
    rw [hlist, fields_intercalate (by simp [parameters])]
    intro part hpart
    obtain ⟨p, hp, rfl⟩ := List.mem_map.1 hpart
    exact no_comma_of_mem_parameters hs hk hp

/-! ## Values -/

/-- The signer that is read is the one that was written, less the quotes at its
front. -/
theorem readSigner_keyId {i : Identity} (hs : '|' ∉ i.subscriberId.toList)
    (hk : '|' ∉ i.keyId.toList) :
    readSigner (stripBoth '"' ('"' ::
        (i.subscriberId ++ "|" ++ i.keyId ++ "|" ++ algorithm).toList ++ ['"'])) =
      .ok (i.unquoted, algorithm) := by
  have hvalue : (i.subscriberId ++ "|" ++ i.keyId ++ "|" ++ algorithm).toList =
      i.subscriberId.toList ++ '|' :: (i.keyId.toList ++ '|' :: "ed2551".toList) ++ ['9'] := by
    simp [algorithm]
  have hdrop : (i.subscriberId.toList ++ '|' :: (i.keyId.toList ++ '|' :: "ed2551".toList) ++
      ['9']).dropWhile (· == '"') =
      i.subscriberId.toList.dropWhile (· == '"') ++
        '|' :: (i.keyId.toList ++ '|' :: algorithm.toList) := by
    rw [List.append_assoc, List.dropWhile_append]
    cases h : i.subscriberId.toList.dropWhile (· == '"') <;> simp [algorithm]
  have hfront : '|' ∉ i.subscriberId.toList.dropWhile (· == '"') :=
    fun h => hs (List.dropWhile_subset _ h)
  rw [hvalue, stripBoth_quoted_of_last (by decide), hdrop, readSigner,
    fields_append_sep hfront, fields_append_sep hk, fields_of_not_mem (by decide)]
  simp [Identity.unquoted]

/-- Seconds that a signed word of 64 bits holds are read back. -/
theorem readSeconds_integerText {name : String} {n : Int} (hl : -(int64Bound : Int) ≤ n)
    (hh : n < int64Bound) :
    readSeconds name (stripBoth '"' ('"' :: (integerText n).toList ++ ['"'])) = .ok n := by
  have hquote : '"' ∉ (integerText n).toList := by
    intro hmem
    rcases integerText_chars hmem with hdigit | hminus
    · cases hdigit
    · cases hminus
  have hread : readInt64 (integerText n).toList = .ok n :=
    readInteger_integerText hl (by have : int64Bound = int64Bound - 1 + 1 := rfl; omega)
  rw [stripBoth_quoted hquote, readSeconds, hread]
  rfl

theorem decode_signature (signature : Bytes) :
    Base64.decode (String.ofList
      (stripBoth '"' ('"' :: (Base64.encode signature).toList ++ ['"']))) = .ok signature := by
  have hquote : '"' ∉ (Base64.encode signature).toList := by
    intro hmem
    rcases Base64.encode_chars hmem with h | h | h | h <;> cases h
  rw [stripBoth_quoted hquote, String.ofList_toList, Base64.decode_encode]

/-! ## Headers -/

/-- A header without commas in its identity is read back, less the quotes at its
front. -/
theorem read_text {a : Authorization}
    (hbar : '|' ∉ a.identity.subscriberId.toList ∧ '|' ∉ a.identity.keyId.toList)
    (hcomma : ',' ∉ a.identity.subscriberId.toList ∧ ',' ∉ a.identity.keyId.toList)
    (hc : -(int64Bound : Int) ≤ a.created ∧ a.created < int64Bound)
    (he : -(int64Bound : Int) ≤ a.expires ∧ a.expires < int64Bound) :
    read a.text = .ok { a with identity := a.identity.unquoted } := by
  obtain ⟨rest, hafter, hfields⟩ := fields_text hcomma.1 hcomma.2
  have hfind : ∀ name value, (name, value) ∈ a.parameters →
      find name ((fields ',' rest).filterMap readParameter) =
        .ok (stripBoth '"' ('"' :: value.toList ++ ['"'])) := by
    intro name value hmem
    rw [hfields, filterMap_readParameter]
    simp only [parameters, List.mem_cons, List.not_mem_nil, or_false, Prod.mk.injEq] at hmem
    rcases hmem with ⟨rfl, rfl⟩ | ⟨rfl, rfl⟩ | ⟨rfl, rfl⟩ | ⟨rfl, rfl⟩ | ⟨rfl, rfl⟩ | ⟨rfl, rfl⟩ <;>
      rfl
  have hkind : String.ofList (stripBoth '"' ('"' :: algorithm.toList ++ ['"'])) = algorithm := by
    decide
  have hread : readHeader a.text.toList = .ok { a with identity := a.identity.unquoted } := by
    unfold readHeader
    rw [hafter]
    simp only [ok_bind, hkind, ne_eq, not_true, if_false,
      hfind "keyId" (a.identity.subscriberId ++ "|" ++ a.identity.keyId ++ "|" ++ algorithm)
        (by simp [parameters]), readSigner_keyId hbar.1 hbar.2,
      hfind "algorithm" algorithm (by simp [parameters]),
      hfind "created" (integerText a.created) (by simp [parameters]),
      readSeconds_integerText hc.1 hc.2,
      hfind "expires" (integerText a.expires) (by simp [parameters]),
      readSeconds_integerText he.1 he.2,
      hfind "signature" (Base64.encode a.signature) (by simp [parameters]), decode_signature]
    rfl
  rw [read, hread]
  rfl

/-- A parameter of a name that is found is one of the parameters. -/
theorem mem_of_find {name : String} {parameters : List (String × List Char)} {value : List Char}
    (h : find name parameters = .ok value) : (name, value) ∈ parameters := by
  unfold find at h
  split at h
  · rename_i found hfound
    cases h
    obtain ⟨before, after, hsplit, -⟩ := List.lookup_eq_some_iff.1 hfound
    refine List.mem_reverse.1 ?_
    rw [hsplit]
    simp
  · cases h

/-- The values of parameters hold no comma. -/
theorem no_comma_of_find {name : String} {rest value : List Char}
    (h : find name ((fields ',' rest).filterMap readParameter) = .ok value) : ',' ∉ value := by
  intro hcomma
  obtain ⟨part, hpart, hread⟩ := List.mem_filterMap.1 (mem_of_find h)
  obtain ⟨⟨n, v⟩, hcut, heq⟩ := Option.map_eq_some_iff.1 hread
  obtain ⟨-, rfl⟩ := Prod.mk.inj heq
  have hmem : ',' ∈ part := mem_of_mem_trim (mem_of_cutAt hcut (mem_of_mem_stripBoth hcomma))
  exact (mem_of_mem_fields hpart hmem).2 rfl

/-- The signer that is read holds characters of the parameter. -/
theorem mem_of_readSigner {value : List Char} {signer : Identity × String}
    (h : readSigner value = .ok signer) {c : Char}
    (hc : c ∈ signer.1.subscriberId.toList ∨ c ∈ signer.1.keyId.toList) : c ∈ value := by
  unfold readSigner at h
  split at h
  · rename_i subscriberId keyId kind hparts
    cases h
    simp only [String.toList_ofList] at hc
    have hsubscriber : subscriberId ∈ fields '|' value := by rw [hparts]; simp
    have hkey : keyId ∈ fields '|' value := by rw [hparts]; simp
    rcases hc with hc | hc
    · exact (mem_of_mem_fields hsubscriber hc).1
    · exact (mem_of_mem_fields hkey hc).1
  · cases h

/-- The signer of a header that is read is the one its parameter names. -/
theorem signer_of_readHeader {header : List Char} {a : Authorization}
    (h : readHeader header = .ok a) : ∃ rest value kind,
    find "keyId" ((fields ',' rest).filterMap readParameter) = .ok value ∧
      readSigner value = .ok (a.identity, kind) := by
  unfold readHeader at h
  split at h
  · rename_i rest _
    obtain ⟨value, hvalue, h⟩ := bind_eq_ok_iff.1 h
    obtain ⟨⟨identity, kind⟩, hsigner, h⟩ := bind_eq_ok_iff.1 h
    refine ⟨rest, value, kind, hvalue, ?_⟩
    dsimp only at h
    split at h
    · cases h
    obtain ⟨_, -, h⟩ := bind_eq_ok_iff.1 h
    split at h
    · cases h
    obtain ⟨_, -, h⟩ := bind_eq_ok_iff.1 h
    obtain ⟨_, -, h⟩ := bind_eq_ok_iff.1 h
    obtain ⟨_, -, h⟩ := bind_eq_ok_iff.1 h
    obtain ⟨_, -, h⟩ := bind_eq_ok_iff.1 h
    obtain ⟨_, -, h⟩ := bind_eq_ok_iff.1 h
    split at h
    · cases h
      exact hsigner
    · cases h
  · cases h

/-- No header is read as an identity with a comma. -/
theorem no_comma_of_read {header : String} {a : Authorization} (h : read header = .ok a) :
    ',' ∉ a.identity.subscriberId.toList ∧ ',' ∉ a.identity.keyId.toList := by
  have hread : readHeader header.toList = .ok a := by
    unfold read at h
    cases hr : readHeader header.toList with
    | error e => rw [hr] at h; cases h
    | ok b => rw [hr] at h; cases h; rfl
  obtain ⟨rest, value, kind, hvalue, hsigner⟩ := signer_of_readHeader hread
  have hcomma := no_comma_of_find hvalue
  exact ⟨fun hs => hcomma (mem_of_readSigner hsigner (.inl hs)),
    fun hk => hcomma (mem_of_readSigner hsigner (.inr hk))⟩

end Authorization

/-! ## Signed requests -/

namespace Keys

variable {d : Draws} {s : Store} {i : Identity} {keys : Keyset}

/-- The header of a request is signed with the stored keyset. -/
theorem alone_authorize (hk : s.keys? i.keyId = some keys) (body : Bytes) (now : Int) :
    (authorize i body now).Alone d s
      (.ok (Authorization.make i now (keys.sign (Authorization.message now body))).text) s := by
  have hsign : (sign i.keyId (Authorization.message now body)).Alone d s
      (.ok (keys.sign (Authorization.message now body))) s := by
    rw [sign, map_eq_pure_bind]
    exact .bind (alone_find hk) (.pure _ s)
  exact .bind hsign (.pure _ s)

/-- The header that is made for a registration is read as the identity less the
quotes at its front, unless there is a comma in it. -/
theorem read_made (hi : i.check = .ok ())
    (hcomma : ',' ∉ i.subscriberId.toList ∧ ',' ∉ i.keyId.toList) (now : Moment)
    (signature : Bytes) :
    Authorization.read (Authorization.make i now.unixSeconds signature).text =
      .ok (Authorization.make i.unquoted now.unixSeconds signature) := by
  have hnow := now.unixSeconds_bounds
  have hbound : (Text.int64Bound : Int) = 9223372036854775808 := rfl
  have hperiod : (Authorization.make i now.unixSeconds signature).expires =
      now.unixSeconds + 300 := rfl
  have hstart : (Authorization.make i now.unixSeconds signature).created = now.unixSeconds := rfl
  refine Authorization.read_text (Identity.no_bar hi) hcomma ?_ ?_
  · rw [hstart]
    omega
  · rw [hperiod]
    omega

/-- **The header of a signed request comes back as it was made exactly if there
is no comma in the identity and its subscriber does not begin with a quote.**  If
there is no comma, only the quotes at the front of the subscriber are lost. -/
theorem read_authorize_iff (d : Draws) (hi : i.check = .ok ())
    (hk : s.keys? i.keyId = some keys) (body : Bytes) (now : Moment) :
    ∃ header, (authorize i body now.unixSeconds).Alone d s (.ok header) s ∧
      (',' ∉ i.subscriberId.toList ∧ ',' ∉ i.keyId.toList →
        Authorization.read header = .ok ⟨i.unquoted, now.unixSeconds, now.unixSeconds + 300,
          keys.sign (Authorization.message now.unixSeconds body)⟩) ∧
      (Authorization.read header = .ok ⟨i, now.unixSeconds, now.unixSeconds + 300,
          keys.sign (Authorization.message now.unixSeconds body)⟩ ↔
        ',' ∉ i.subscriberId.toList ∧ ',' ∉ i.keyId.toList ∧
          i.subscriberId.toList.head? ≠ some '"') := by
  refine ⟨_, alone_authorize hk body now.unixSeconds, ?_, ?_, ?_⟩
  · intro hcomma
    exact read_made hi hcomma now _
  · intro hread
    have hcomma := Authorization.no_comma_of_read hread
    have hsame : i.unquoted = i := by
      rw [read_made hi hcomma now] at hread
      exact congrArg Authorization.identity (Except.ok.inj hread)
    exact ⟨hcomma.1, hcomma.2, Identity.unquoted_eq_iff.1 hsame⟩
  · rintro ⟨hs, hkey, hquote⟩
    rw [read_made hi ⟨hs, hkey⟩ now, Identity.unquoted_eq_iff.2 hquote]
    rfl

/-- The header of a plain identity comes back. -/
theorem read_authorize_sample : ∃ header,
    (authorize sampleIdentity [] Moment.epoch.unixSeconds).Alone .sample
      (Store.empty.offerKeys "key" Draws.sample.keys).2 (.ok header)
      (Store.empty.offerKeys "key" Draws.sample.keys).2 ∧
    Authorization.read header = .ok ⟨sampleIdentity, 0, 300,
      Draws.sample.keys.sign (Authorization.message 0 [])⟩ := by
  have hchecks : sampleIdentity.check = .ok () := rfl
  have hkeys : (Store.empty.offerKeys "key" Draws.sample.keys).2.keys? sampleIdentity.keyId =
      some Draws.sample.keys := by
    decide
  obtain ⟨header, halone, -, hiff⟩ := read_authorize_iff .sample hchecks hkeys [] .epoch
  exact ⟨header, halone, hiff.2 (by decide)⟩

/-- An identity with a comma may be registered, and the header that is made for
it is not read as that identity. -/
theorem read_authorize_comma : (⟨"a,b", "key"⟩ : Identity).check = .ok () ∧
    ∃ header, (authorize ⟨"a,b", "key"⟩ [] 0).Alone .sample
      (Store.empty.offerKeys "key" Draws.sample.keys).2 (.ok header)
      (Store.empty.offerKeys "key" Draws.sample.keys).2 ∧
    ∀ a, Authorization.read header = .ok a → a.identity ≠ ⟨"a,b", "key"⟩ := by
  have hkeys : (Store.empty.offerKeys "key" Draws.sample.keys).2.keys? "key" =
      some Draws.sample.keys := by
    decide
  refine ⟨rfl, _, alone_authorize hkeys [] 0, ?_⟩
  intro a hread hidentity
  have hcomma := (Authorization.no_comma_of_read hread).1
  rw [hidentity] at hcomma
  exact hcomma (by decide)

end Keys

end Enrolment
