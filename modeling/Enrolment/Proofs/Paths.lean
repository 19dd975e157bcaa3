import Enrolment.Config.CallbackPath
import Enrolment.Proofs.Steps
import Enrolment.Proofs.Texts.Padding
import Enrolment.Proofs.Texts.Parts

/-!
# Lists of paths

A list of paths is cut at its commas, and every part that is not blank writes a
path: the part without the blank characters around it, after a slash.  The list is
refused if one of its paths is not literal or belongs to the interface, which is
found out with the slash in its place.

The paths of a list, joined again, are a list of the same paths.  So a list of
paths that can serve is its own normal form.

## Main definitions

* `WritesPath` — what a part of a list writes.
* `IsCallbackPath` — the path can serve.

## Main statements

* `readCallbackPath_eq_ok_iff` — what is made of a part.
* `readCallbackPaths_eq_ok_iff` — what is made of a list.
* `readCallbackPaths_intercalate` — paths that can serve are read again.
* `readCallbackPaths_normal` — lists of paths have a normal form.
-/

namespace Enrolment

variable {cs part : List Char} {path raw : String} {paths : List String} {c : Char}

/-! ## What a list writes -/

/-- A part of a list writes a path: what is left of it when it is trimmed, with a
slash in front. -/
inductive WritesPath : List Char → String → Prop
  /-- The slash is there. -/
  | absolute {part rest : List Char} (h : Text.Trims part ('/' :: rest)) :
      WritesPath part (String.ofList ('/' :: rest))
  /-- The slash is left out. -/
  | relative {part rest : List Char} {first : Char} (h : Text.Trims part (first :: rest))
      (hfirst : first ≠ '/') : WritesPath part (String.ofList ('/' :: first :: rest))

/-- The parts of a list that are not blank. -/
def visibleParts (raw : String) : List (List Char) :=
  (raw.toList.splitOn ',').filter fun part => !part.all Text.isBlank

/-- The path can serve. -/
structure IsCallbackPath (path : String) : Prop where
  /-- It begins with a slash, -/
  absolute : path.toList.head? = some '/'
  /-- it is literal, -/
  literal : ∀ c ∈ path.toList, Text.isBlank c = false ∧ c ∉ [',', '{', '}', '*', ':']
  /-- and it is no path of the interface. -/
  free : path ∉ reservedPaths

/-! ## One path -/

theorem head?_withSlash : (withSlash cs).head? = some '/' := by
  unfold withSlash
  split <;> rfl

theorem mem_of_mem_withSlash (h : c ∈ withSlash cs) (hc : c ≠ '/') : c ∈ cs := by
  unfold withSlash at h
  split at h
  · exact h
  · exact List.mem_of_ne_of_mem hc h

/-- The slash stands for no pattern. -/
theorem any_withSlash : (withSlash cs).any isPatternChar = cs.any isPatternChar := by
  unfold withSlash
  split
  · rfl
  · rw [List.any_cons, show isPatternChar '/' = false from rfl, Bool.false_or]

/-- A part is read as its path if that is literal and free. -/
theorem readCallbackPath_eq_ok_iff : readCallbackPath part = .ok path ↔
    path = String.ofList (withSlash part) ∧ (∀ c ∈ path.toList, isPatternChar c = false) ∧
      path ∉ reservedPaths := by
  have hliteral : (∀ c ∈ (String.ofList (withSlash part)).toList, isPatternChar c = false) ↔
      part.any isPatternChar = false := by
    rw [← any_withSlash, String.toList_ofList, List.any_eq_false]
    simp
  unfold readCallbackPath
  by_cases hpattern : part.any isPatternChar = true
  · rw [if_pos hpattern]
    refine iff_of_false nofun ?_
    rintro ⟨rfl, h, -⟩
    rw [hliteral, hpattern] at h
    cases h
  rw [if_neg hpattern]
  by_cases hreserved : String.ofList (withSlash part) ∈ reservedPaths
  · simp only [if_pos hreserved]
    refine iff_of_false nofun ?_
    rintro ⟨rfl, -, h⟩
    exact h hreserved
  simp only [if_neg hreserved]
  constructor
  · intro h
    obtain rfl := Except.ok.inj h
    exact ⟨rfl, hliteral.2 (Bool.eq_false_iff.2 hpattern), hreserved⟩
  · rintro ⟨rfl, -, -⟩
    rfl

/-- Otherwise it is refused. -/
theorem exists_readCallbackPath_eq_error_iff : (∃ e, readCallbackPath part = .error e) ↔
    (∃ c ∈ withSlash part, isPatternChar c = true) ∨
      String.ofList (withSlash part) ∈ reservedPaths := by
  cases h : readCallbackPath part with
  | ok path =>
    obtain ⟨rfl, hliteral, hfree⟩ := readCallbackPath_eq_ok_iff.1 h
    refine iff_of_false (fun ⟨e, he⟩ => nomatch he) ?_
    rintro (⟨c, hc, hpattern⟩ | hreserved)
    · rw [hliteral c (by rwa [String.toList_ofList])] at hpattern
      cases hpattern
    · exact hfree hreserved
  | error e =>
    refine iff_of_true ⟨e, rfl⟩ ?_
    by_contra hnot
    rw [not_or] at hnot
    have hok : readCallbackPath part = .ok (String.ofList (withSlash part)) := by
      rw [readCallbackPath_eq_ok_iff]
      refine ⟨rfl, ?_, hnot.2⟩
      simpa using hnot.1
    rw [h] at hok
    cases hok

/-! ## The parts of a list -/

theorem callbackParts_eq : callbackParts raw = (visibleParts raw).map Text.trim := by
  rw [callbackParts, Text.fields_eq_splitOn, List.filter_map, visibleParts]
  congr 1
  refine List.filter_congr fun part _ => ?_
  rw [Function.comp_apply, Bool.eq_iff_iff]
  simp [Text.trim_eq_nil_iff]

theorem withSlash_of_ne {first : Char} {rest : List Char} (h : first ≠ '/') :
    withSlash (first :: rest) = '/' :: first :: rest := by
  unfold withSlash
  split
  · rename_i heq
    exact absurd (List.cons.inj heq).1 h
  · rfl

/-- A part that is not blank writes one path. -/
theorem writesPath_iff : WritesPath part path ↔
    part.all Text.isBlank = false ∧ path = String.ofList (withSlash (Text.trim part)) := by
  have hvisible {first : Char} {rest : List Char} (h : Text.trim part = first :: rest) :
      part.all Text.isBlank = false := by
    rw [Bool.eq_false_iff, ne_eq, ← Text.trim_eq_nil_iff, h]
    exact List.cons_ne_nil first rest
  constructor
  · intro h
    cases h with
    | absolute h =>
      rw [← Text.trim_eq_iff] at h
      refine ⟨hvisible h, ?_⟩
      rw [h]
      rfl
    | relative h hfirst =>
      rw [← Text.trim_eq_iff] at h
      exact ⟨hvisible h, by rw [h, withSlash_of_ne hfirst]⟩
  · rintro ⟨hpart, rfl⟩
    cases hcore : Text.trim part with
    | nil =>
      rw [Text.trim_eq_nil_iff.1 hcore] at hpart
      cases hpart
    | cons first rest =>
      by_cases hfirst : first = '/'
      · subst hfirst
        exact .absolute (Text.trim_eq_iff.1 hcore)
      · rw [withSlash_of_ne hfirst]
        exact .relative (Text.trim_eq_iff.1 hcore) hfirst

/-! ## Lists -/

theorem isPatternChar_iff :
    isPatternChar c = true ↔ Text.isBlank c = true ∨ c ∈ ['{', '}', '*', ':'] := by
  rw [isPatternChar, Bool.or_eq_true, decide_eq_true_iff]

theorem isPatternChar_eq_false_iff :
    isPatternChar c = false ↔ Text.isBlank c = false ∧ c ∉ ['{', '}', '*', ':'] := by
  rw [← Bool.not_eq_true, isPatternChar_iff, not_or, Bool.not_eq_true]

theorem writesPath_iff_of_visible (h : part ∈ visibleParts raw) :
    WritesPath part path ↔ path = String.ofList (withSlash (Text.trim part)) := by
  have hvisible : part.all Text.isBlank = false := by simpa using (List.mem_filter.1 h).2
  rw [writesPath_iff, hvisible, eq_self, true_and]

/-- What a part writes holds no comma. -/
theorem comma_not_mem (h : part ∈ visibleParts raw) : ',' ∉ withSlash (Text.trim part) := by
  intro hmem
  have hpart : part ∈ Text.fields ',' raw.toList := by
    rw [Text.fields_eq_splitOn]
    exact List.mem_of_mem_filter h
  have hcomma : ',' ∈ part := Text.mem_of_mem_trim (mem_of_mem_withSlash hmem (by decide))
  exact (Text.mem_of_mem_fields hpart hcomma).2 rfl

/-- A part is read as the path that it writes, if that can serve. -/
theorem readCallbackPath_trim_eq_ok_iff (h : part ∈ visibleParts raw) :
    readCallbackPath (Text.trim part) = .ok path ↔ WritesPath part path ∧ IsCallbackPath path := by
  rw [readCallbackPath_eq_ok_iff, writesPath_iff_of_visible h]
  constructor
  · rintro ⟨rfl, hliteral, hfree⟩
    refine ⟨rfl, ?_, fun c hc => ?_, hfree⟩
    · rw [String.toList_ofList, head?_withSlash]
    · obtain ⟨hblank, hpattern⟩ := isPatternChar_eq_false_iff.1 (hliteral c hc)
      refine ⟨hblank, List.not_mem_cons_of_ne_of_not_mem ?_ hpattern⟩
      rintro rfl
      rw [String.toList_ofList] at hc
      exact comma_not_mem h hc
  · rintro ⟨rfl, hserves⟩
    refine ⟨rfl, fun c hc => ?_, hserves.free⟩
    obtain ⟨hblank, hpattern⟩ := hserves.literal c hc
    exact isPatternChar_eq_false_iff.2 ⟨hblank, List.not_mem_of_not_mem_cons hpattern⟩

theorem readCallbackPaths_eq : readCallbackPaths raw =
    (visibleParts raw).mapM fun part => readCallbackPath (Text.trim part) := by
  rw [readCallbackPaths, callbackParts_eq, List.mapM_map]
  rfl

/-- Entries that are related and have a property are related, and have it. -/
theorem forall₂_and_iff {α β : Type} {R S : α → β → Prop} {p : β → Prop} {xs : List α}
    {ys : List β} (h : ∀ x ∈ xs, ∀ y, R x y ↔ S x y ∧ p y) :
    List.Forall₂ R xs ys ↔ List.Forall₂ S xs ys ∧ ∀ y ∈ ys, p y := by
  induction xs generalizing ys with
  | nil => cases ys <;> simp
  | cons x xs ih =>
    cases ys with
    | nil => simp
    | cons y ys =>
      rw [List.forall₂_cons, List.forall₂_cons, List.forall_mem_cons, h x List.mem_cons_self,
        ih fun z hz => h z (List.mem_cons_of_mem x hz), and_and_and_comm]

/-- A list is read as the paths that its parts write, if all of them can serve. -/
theorem readCallbackPaths_eq_ok_iff : readCallbackPaths raw = .ok paths ↔
    List.Forall₂ WritesPath (visibleParts raw) paths ∧ ∀ path ∈ paths, IsCallbackPath path := by
  rw [readCallbackPaths_eq, mapM_eq_ok_iff]
  exact forall₂_and_iff fun part hpart path => readCallbackPath_trim_eq_ok_iff hpart

/-- The paths that are read can serve. -/
theorem isCallbackPath_of_mem (h : readCallbackPaths raw = .ok paths) (hp : path ∈ paths) :
    IsCallbackPath path :=
  (readCallbackPaths_eq_ok_iff.1 h).2 path hp

/-- A path that can serve writes itself. -/
theorem IsCallbackPath.writesPath (h : IsCallbackPath path) : WritesPath path.toList path := by
  obtain ⟨rest, hrest⟩ := List.head?_eq_some_iff.1 h.absolute
  have htrims : Text.Trims path.toList path.toList := by
    refine Text.trim_eq_iff.1 (Text.trim_eq_self (fun c hc => ?_) fun c hc => ?_)
    · exact (h.literal c (List.mem_of_mem_head? hc)).1
    · exact (h.literal c (List.mem_of_mem_getLast? hc)).1
  have hwrites : WritesPath path.toList (String.ofList ('/' :: rest)) :=
    .absolute (hrest ▸ htrims)
  rwa [← hrest, String.ofList_toList] at hwrites

/-- The parts of joined paths are the paths. -/
theorem visibleParts_intercalate (h : ∀ path ∈ paths, IsCallbackPath path) :
    visibleParts (",".intercalate paths) = paths.map String.toList := by
  by_cases hnil : paths = []
  · subst hnil
    rfl
  have hcomma : ∀ part ∈ paths.map String.toList, ',' ∉ part := by
    intro part hpart hmem
    obtain ⟨path, hpath, rfl⟩ := List.mem_map.1 hpart
    exact ((h path hpath).literal ',' hmem).2 List.mem_cons_self
  have hparts : (",".intercalate paths).toList.splitOn ',' = paths.map String.toList := by
    rw [String.toList_intercalate]
    exact List.splitOn_intercalate ',' hcomma (by simpa using hnil)
  rw [visibleParts, hparts, List.filter_eq_self]
  intro part hpart
  obtain ⟨path, hpath, rfl⟩ := List.mem_map.1 hpart
  rw [(writesPath_iff.1 (h path hpath).writesPath).1, Bool.not_false]

/-- Paths that can serve are read again when they are joined. -/
theorem readCallbackPaths_intercalate (h : ∀ path ∈ paths, IsCallbackPath path) :
    readCallbackPaths (",".intercalate paths) = .ok paths := by
  rw [readCallbackPaths_eq_ok_iff, visibleParts_intercalate h, List.forall₂_map_left_iff,
    List.forall₂_same]
  exact ⟨fun path hp => (h path hp).writesPath, h⟩

/-- **Lists of paths.**  The paths that are read are those that the parts of the
list write, in their order; they can serve, and joined they are read again.  A
list is refused exactly if one of its parts writes a path that is not literal or
belongs to the interface. -/
theorem readCallbackPaths_normal (raw : String) :
    (∀ paths, readCallbackPaths raw = .ok paths →
      List.Forall₂ WritesPath (visibleParts raw) paths ∧
      (∀ path ∈ paths, IsCallbackPath path) ∧
      readCallbackPaths (",".intercalate paths) = .ok paths) ∧
    ((∃ e, readCallbackPaths raw = .error e) ↔
      ∃ part ∈ visibleParts raw, ∃ path, WritesPath part path ∧
        ((∃ c ∈ path.toList, Text.isBlank c = true ∨ c ∈ ['{', '}', '*', ':']) ∨
          path ∈ reservedPaths)) := by
  constructor
  · intro paths h
    obtain ⟨hwrites, hserve⟩ := readCallbackPaths_eq_ok_iff.1 h
    exact ⟨hwrites, hserve, readCallbackPaths_intercalate hserve⟩
  · rw [readCallbackPaths_eq, exists_mapM_eq_error_iff]
    refine exists_congr fun part => and_congr_right fun hpart => ?_
    simp only [exists_readCallbackPath_eq_error_iff, writesPath_iff_of_visible hpart,
      exists_eq_left, String.toList_ofList, isPatternChar_iff]

/-- A list with padded, blank and relative parts is put in order, and slashes are
put in front before the paths of the interface are looked for. -/
theorem readCallbackPaths_normal_untidy :
    readCallbackPaths " bap/on_subscribe,, /bpp/on_subscribe" =
      .ok ["/bap/on_subscribe", "/bpp/on_subscribe"] ∧
    readCallbackPaths "/bap/on_subscribe,/bpp/on_subscribe" =
      .ok ["/bap/on_subscribe", "/bpp/on_subscribe"] ∧
    ∃ e, readCallbackPaths "/on_subscribe, health " = .error e := by
  have hread : readCallbackPaths " bap/on_subscribe,, /bpp/on_subscribe" =
      .ok ["/bap/on_subscribe", "/bpp/on_subscribe"] := by decide +kernel
  have hhealth : WritesPath " health ".toList "/health" := by
    rw [writesPath_iff]
    decide +kernel
  refine ⟨hread, ((readCallbackPaths_normal _).1 _ hread).2.2, ?_⟩
  have hlisted : " health ".toList ∈ visibleParts "/on_subscribe, health " := by decide +kernel
  exact (readCallbackPaths_normal _).2.2 ⟨_, hlisted, "/health", hhealth, .inr (by decide)⟩

end Enrolment
