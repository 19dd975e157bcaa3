import Enrolment.Json.Value
import Enrolment.Json.Token
import Enrolment.Proofs.Texts.Parts
import Mathlib.Data.Nat.Digits.Defs
import Mathlib.Tactic.IntervalCases

/-!
# Characters that spell tokens

What is written is read as the tokens that it was written for.  The machine that
cuts characters into tokens does not look at those that it has put, so wherever a
token may begin the same characters are the same tokens.  A number alone does not
tell where it ends; but every mark that may follow it in a document ends it, and
so does the end of the document.

## Main definitions

* `Lexer.HasPut` — the tokens are put, but for the end of a number.
* `Mark` — the characters that are tokens of their own.
* `Spells` — what characters are wherever a token may begin.

## Main statements

* `Spells.mark` — spellings with a mark in between.
* `Spells.of_tokens` — a number that stands alone is one anywhere.
* `spells_quote` — texts, with all their escapes.
* `Number.spells_natural`, `Number.spells_negSucc` — integers.
-/

namespace Enrolment.Json

/-- A character that is a token, and ends a number before it. -/
inductive Mark : Char → Token → Prop
  /-- An array begins. -/
  | openArray : Mark '[' .openArray
  /-- An array ends. -/
  | closeArray : Mark ']' .closeArray
  /-- An object begins. -/
  | openObject : Mark '{' .openObject
  /-- An object ends. -/
  | closeObject : Mark '}' .closeObject
  /-- A value follows its name. -/
  | colon : Mark ':' .colon
  /-- Something else follows. -/
  | comma : Mark ',' .comma

namespace Lexer

variable {l : Lexer} {ts : List Token} {t : Token} {c : Char} {cs ds : List Char}

/-! ## What the machine has put before -/

/-- The machine with tokens before those that it has put. -/
def after (l : Lexer) (ts : List Token) : Lexer := { l with read := l.read ++ ts }

/-- A machine that has given up has put a bad token. -/
def Candid (l : Lexer) : Prop := l.mode = .lost → .bad ∈ l.read

theorem candid_put (t : Token) : (l.put t).Candid := nofun

theorem candid_lose : l.lose.Candid := fun _ => List.mem_cons_self

theorem candid_turn {m : Mode} (h : m ≠ .lost) : (l.turn m).Candid := fun hm => absurd hm h

theorem candid_begin (c : Char) : (l.begin c).Candid := by
  unfold begin
  split
  case h_17 =>
    split
    · exact candid_turn nofun
    · exact candid_lose
  all_goals first | exact candid_put _ | exact candid_turn nofun

theorem candid_numeral (n : Numeral) (part : NumeralPart) (c : Char) :
    (l.numeral n part c).Candid := by
  have hend (part : NumeralPart) : (l.endNumeral n part c).Candid := by
    unfold endNumeral
    split
    · exact candid_begin c
    · exact candid_lose
  unfold numeral
  dsimp only
  split
  all_goals first | exact candid_lose | exact hend _ | exact candid_turn nofun

theorem candid_escaped (s : Partial) (c : Char) : (l.escaped s c).Candid := by
  unfold escaped
  split
  all_goals first | exact candid_lose | exact candid_turn nofun

theorem Candid.step (h : l.Candid) (c : Option Char) : (l.step c).Candid := by
  unfold Lexer.step
  split
  · exact h
  · exact candid_begin _
  · split
    · split
      · exact candid_put _
      · exact candid_turn nofun
    · exact candid_lose
  · exact candid_numeral _ _ _
  · split <;> exact candid_lose
  · split
    · exact candid_put _
    split
    · exact candid_turn nofun
    split
    · exact candid_lose
    · exact candid_turn nofun
  · exact candid_turn nofun
  · exact candid_escaped _ _
  · split
    · split <;> exact candid_turn nofun
    · exact candid_lose
  · exact candid_lose

/-! ## What the machine has put -/

/-- Read some characters. -/
def run (l : Lexer) (cs : List Char) : Lexer := cs.foldl (fun l c => l.step (some c)) l

theorem run_cons : l.run (c :: cs) = (l.step (some c)).run cs := rfl

theorem run_append : l.run (cs ++ ds) = (l.run cs).run ds := List.foldl_append

theorem Candid.run (h : l.Candid) (cs : List Char) : (l.run cs).Candid := by
  induction cs generalizing l with
  | nil => exact h
  | cons c cs ih => exact ih (h.step c)

/-- The machine has put the tokens, the last of them first; if the last one is a
number, the machine may not know yet that it has ended. -/
inductive HasPut : List Token → Lexer → Prop
  /-- All of them were put. -/
  | between (ts : List Token) : HasPut ts ⟨.between, ts⟩
  /-- The last one is a number that may end here. -/
  | numeral {n : Numeral} {part : NumeralPart} (h : part.mayEnd = true) (ts : List Token) :
    HasPut (.numeral (ordered n) :: ts) ⟨.numeral n part, ts⟩

theorem HasPut.finish (h : HasPut ts l) : l.finish = ts.reverse := by
  cases h with
  | between => rfl
  | numeral h ts => simp [Lexer.finish, h, put]

/-- A mark ends whatever is before it. -/
theorem HasPut.mark (h : HasPut ts l) (hm : Mark c t) : l.step (some c) = ⟨.between, t :: ts⟩ := by
  cases h with
  | between => cases hm <;> rfl
  | @numeral n part h ts => cases part <;> first | cases h; done | cases hm <;> rfl

end Lexer

open Lexer

/-! ## Spellings -/

/-- Wherever a token may begin, the characters are these tokens. -/
def Spells (cs : List Char) (ts : List Token) : Prop :=
  ∀ read, HasPut (ts.reverse ++ read) (run ⟨.between, read⟩ cs)

namespace Spells

variable {ts us : List Token} {t : Token} {c : Char} {cs ds : List Char}

theorem nil : Spells [] [] := .between

/-- Two spellings with a mark in between. -/
theorem mark (h : Spells cs ts) (hm : Mark c t) (h' : Spells ds us) :
    Spells (cs ++ c :: ds) (ts ++ t :: us) := by
  intro read
  rw [run_append, run_cons, (h read).mark hm]
  simpa using h' (t :: (ts.reverse ++ read))

/-- What the characters are is told from the start. -/
theorem tokens_eq (h : Spells cs ts) : tokens (cs.map some) = ts := by
  have hput : HasPut ts.reverse (run .start cs) := by simpa [start] using h []
  have hfold : (cs.map some).foldl step .start = run .start cs := by
    rw [List.foldl_map]
    rfl
  rw [tokens, hfold, hput.finish, List.reverse_reverse]

end Spells

/-! ## Texts -/

theorem hexValue?_hexDigit {n : Nat} (h : n < 16) : Text.hexValue? (Text.hexDigit n) = some n := by
  revert n
  decide

/-- A character of a text is read as it was written. -/
theorem run_escape (c : Char) (cs : List Char) (read : List Token) :
    run ⟨.text ⟨cs, true, none⟩, read⟩ (Value.escape c) = ⟨.text ⟨c :: cs, true, none⟩, read⟩ := by
  have hcode {n : Nat} (h : c.toNat = n) : Char.ofNat n = c := by rw [← h, Char.ofNat_toNat]
  unfold Value.escape
  split
  · subst c; rfl
  split
  · subst c; rfl
  split
  · rename_i h
    rw [← hcode h]; rfl
  split
  · rename_i h
    rw [← hcode h]; rfl
  split
  · subst c; rfl
  split
  · subst c; rfl
  split
  · subst c; rfl
  split
  · rename_i h
    have hhigh := hexValue?_hexDigit (n := c.toNat / 16) (by omega)
    have hlow := hexValue?_hexDigit (n := c.toNat % 16) (by omega)
    have hzero : Text.hexValue? '0' = some 0 := rfl
    have hpush : (Partial.mk cs true none).pushUnit ((0 * 16 + c.toNat / 16) * 16 + c.toNat % 16) =
        ⟨c :: cs, true, none⟩ := by
      rw [show (0 * 16 + c.toNat / 16) * 16 + c.toNat % 16 = c.toNat by omega, Partial.pushUnit]
      simp only [Partial.push, Char.ofNat_toNat]
      rw [if_neg (by omega), if_neg (by omega)]
      rfl
    simpa [Value.unicodeEscape, run, step, escaped, turn, hzero, hhigh, hlow] using hpush
  · rename_i hquote hslash _ _ _ _ _ h
    simp [run, step, hquote, hslash, h, turn, Partial.push]

/-- A text between its quotes is the text. -/
theorem spells_quote (s : String) : Spells (Value.quote s) [.text (some s)] := by
  have hchars (cs ds : List Char) (read : List Token) :
      run ⟨.text ⟨ds, true, none⟩, read⟩ (cs.flatMap Value.escape) =
        ⟨.text ⟨cs.reverse ++ ds, true, none⟩, read⟩ := by
    induction cs generalizing ds with
    | nil => rfl
    | cons c cs ih => rw [List.flatMap_cons, run_append, run_escape, ih]; simp
  intro read
  have hquote : run ⟨.between, read⟩ (Value.quote s) = ⟨.between, .text (some s) :: read⟩ := by
    rw [Value.quote, run_cons, run_append, show step ⟨.between, read⟩ (some '"') =
      ⟨.text ⟨[], true, none⟩, read⟩ from rfl, hchars]
    simp [run, step, put, Partial.token]
  rw [hquote]
  exact .between _


/-! ## Integers -/

/-- What the machine is in the middle of when the digits of an integer follow. -/
def signed : Bool → Mode
  | true => .numeral (noDigits true) .sign
  | false => .between

theorem step_signed {d : Nat} (hd : 0 < d ∧ d < 10) (negative : Bool) (read : List Token) :
    step ⟨signed negative, read⟩ (some d.digitChar) =
      ⟨.numeral ⟨negative, [d], [], none⟩ .whole, read⟩ := by
  obtain ⟨hpos, hlt⟩ := hd
  interval_cases d <;> cases negative <;> rfl

theorem step_whole {d : Nat} (hd : d < 10) (n : Numeral) (read : List Token) :
    step ⟨.numeral n .whole, read⟩ (some d.digitChar) =
      ⟨.numeral { n with whole := d :: n.whole } .whole, read⟩ := by
  interval_cases d <;> rfl

/-- The digits of a positive number are read as its digits. -/
theorem run_toDigits (negative : Bool) {n : Nat} (hn : 0 < n) (read : List Token) :
    run ⟨signed negative, read⟩ (Nat.toDigits 10 n) =
      ⟨.numeral ⟨negative, Nat.digits 10 n, [], none⟩ .whole, read⟩ := by
  induction n using Nat.strongRecOn with
  | _ n ih =>
    rw [Nat.toDigits_eq_if (by decide)]
    split
    · rename_i hlt
      rw [run_cons, step_signed ⟨hn, hlt⟩, Nat.digits_of_lt 10 n (by omega) hlt]
      rfl
    · rename_i hge
      rw [run_append, ih (n / 10) (by omega) (by omega), run_cons,
        step_whole (Nat.mod_lt n (by decide)), Nat.digits_def' (by decide) hn]
      rfl

/-- One more digit is appended, if the number still fits. -/
theorem significand_concat {v w d : Nat} {xs : List Nat} (h : Numeral.significand v xs = (w, 0))
    (hd : w * 10 + d < UInt64.size) : Numeral.significand v (xs ++ [d]) = (w * 10 + d, 0) := by
  induction xs generalizing v with
  | nil =>
    obtain rfl : v = w := congrArg Prod.fst h
    simp [Numeral.significand, hd]
  | cons x xs ih =>
    rw [Numeral.significand] at h
    by_cases hx : v * 10 + x < UInt64.size
    · rw [List.cons_append, Numeral.significand, if_pos hx, ih (by rwa [if_pos hx] at h)]
    · rw [if_neg hx] at h
      cases congrArg Prod.snd h

/-- The digits of a number make it up, as long as it fits. -/
theorem significand_digits {n : Nat} (h : n < UInt64.size) :
    Numeral.significand 0 (Nat.digits 10 n).reverse = (n, 0) := by
  induction n using Nat.strongRecOn with
  | _ n ih =>
    rcases Nat.eq_zero_or_pos n with rfl | hn
    · rfl
    · rw [Nat.digits_def' (by decide) hn, List.reverse_cons,
        significand_concat (ih (n / 10) (by omega) (by omega)) (by omega),
        show n / 10 * 10 + n % 10 = n by omega]

/-- Characters that leave the machine in a number which may end are this number. -/
theorem Spells.of_run {n : Numeral} {part : NumeralPart} {cs : List Char}
    (hp : part.mayEnd = true) (h : ∀ read, run ⟨.between, read⟩ cs = ⟨.numeral n part, read⟩) :
    Spells cs [.numeral (ordered n)] := by
  intro read
  rw [h read]
  exact .numeral hp read

namespace Number

/-- A natural number is read as it was written. -/
theorem spells_natural (n : UInt64) :
    ∃ m : Numeral, Spells (text (.natural n)) [.numeral m] ∧ m.number? = some (.natural n) := by
  rcases Nat.eq_zero_or_pos n.toNat with hz | hn
  · obtain rfl : n = 0 := UInt64.toNat.inj hz
    have hzero (read : List Token) : run ⟨.between, read⟩ ['0'] =
        ⟨.numeral { Lexer.noDigits false with whole := [0] } .zero, read⟩ := rfl
    exact ⟨_, .of_run rfl hzero, rfl⟩
  · refine ⟨_, .of_run rfl (run_toDigits false hn), ?_⟩
    have hvalue := significand_digits n.toNat_lt
    rw [ordered]
    generalize (Nat.digits 10 n.toNat).reverse = ds at hvalue ⊢
    simp [Numeral.number?, hvalue]

/-- A negative integer is read as it was written. -/
theorem spells_negSucc (n : Fin Text.int64Bound) :
    ∃ m : Numeral, Spells (text (.negSucc n)) [.numeral m] ∧ m.number? = some (.negSucc n) := by
  have hbound : n.val + 1 ≤ Text.int64Bound := n.isLt
  refine ⟨_, .of_run rfl (run_toDigits true (Nat.succ_pos n)), ?_⟩
  have hvalue := significand_digits (n := n.val + 1) (Nat.lt_of_le_of_lt hbound (by decide))
  rw [ordered]
  generalize (Nat.digits 10 (n.val + 1)).reverse = ds at hvalue ⊢
  simp [Numeral.number?, hvalue, hbound]

end Number

end Enrolment.Json
