import Mathlib.Data.List.Forall2
import Mathlib.Tactic.SplitIfs
import Stencil.Log.Envelope
import Stencil.Proofs.Numerals

/-!
# Documents are printed in ASCII

Whatever is in a document, its text consists of printable ASCII characters: what is between quotes is escaped, and
numbers have only digits, signs, points and letters (`Stencil.Graph.isPrintableAscii_of_json`).
-/

namespace Stencil

namespace Text

variable {cs ds : List Char}

/-- Printable characters stay printable when they are put one after the other. -/
theorem IsPrintableAscii.append (hcs : IsPrintableAscii cs) (hds : IsPrintableAscii ds) : IsPrintableAscii (cs ++ ds) :=
  fun c hc => (List.mem_append.mp hc).elim (hcs c) (hds c)

theorem IsPrintableAscii.cons {c : Char} (hc : IsPrintableAscii [c]) (hcs : IsPrintableAscii cs) :
    IsPrintableAscii (c :: cs) :=
  hc.append hcs

/-- Characters that occur among printable ones are printable. -/
theorem IsPrintableAscii.subset (hds : IsPrintableAscii ds) (h : ∀ c ∈ cs, c ∈ ds) : IsPrintableAscii cs :=
  fun c hc => hds c (h c hc)

theorem isPrintableAscii_of_isDigit (h : ∀ c ∈ cs, c.isDigit = true) : IsPrintableAscii cs := by
  intro c hc
  obtain ⟨hlow, hhigh⟩ := Char.isDigit_iff_toNat.mp (h c hc)
  have hzero : '0'.toNat = 48 := rfl
  have hnine : '9'.toNat = 57 := rfl
  omega

/-- Hexadecimal digits are put in front one by one, from the last to the first. -/
theorem isPrintableAscii_hexDigitsOnto (width n : Nat) (hcs : IsPrintableAscii cs) :
    IsPrintableAscii (hexDigitsOnto width n cs) := by
  induction width generalizing n cs with
  | zero => exact hcs
  | succ width ih =>
    have hdigits : ∀ n < 16, IsPrintableAscii [hexDigit n] := by decide
    exact ih (n / 16) (.append (hdigits (n % 16) (Nat.mod_lt n (by decide))) hcs)

end Text

open Text

/-! ### Numbers -/

namespace Number

theorem isPrintableAscii_repr (n : Nat) : IsPrintableAscii (Nat.repr n).toList := by
  rw [Nat.toList_repr]
  exact isPrintableAscii_of_isDigit (isDigit_of_mem_toDigits n)

/-- An integer that has a text has a sign and digits in it. One with too many digits has none. -/
theorem isPrintableAscii_integerText {n : Int} {text : String} (h : Graph.integerText n = .ok text) :
    IsPrintableAscii text.toList := by
  have hdigits := isPrintableAscii_repr n.natAbs
  unfold Graph.integerText integerText? at h
  dsimp only at h
  by_cases hlength : (Nat.repr n.natAbs).length ≤ digitLimit
  · rw [if_pos hlength] at h
    obtain rfl := Except.ok.inj h
    split
    · rw [String.toList_append]
      exact .append (by decide) hdigits
    · exact hdigits
  · rw [if_neg hlength] at h
    exact nomatch h

namespace Binary64

variable {digits : String}

theorem isPrintableAscii_zeros (n : Nat) : IsPrintableAscii (zeros n).toList := by
  have hzero : IsPrintableAscii ['0'] := by decide
  rw [zeros, String.toList_ofList]
  exact hzero.subset fun c hc => List.mem_singleton.mpr (List.eq_of_mem_replicate hc)

theorem isPrintableAscii_take (h : IsPrintableAscii digits.toList) (n : Nat) :
    IsPrintableAscii (digits.take n).toString.toList := by
  have htake : (digits.take n).toString.toList = digits.toList.take n := String.toList_copy_take
  rw [htake]
  exact h.subset fun _ => List.mem_of_mem_take

theorem isPrintableAscii_drop (h : IsPrintableAscii digits.toList) (n : Nat) :
    IsPrintableAscii (digits.drop n).toString.toList := by
  have hdrop : (digits.drop n).toString.toList = digits.toList.drop n := String.toList_copy_drop
  rw [hdrop]
  exact h.subset fun _ => List.mem_of_mem_drop

theorem isPrintableAscii_stripZeros (h : IsPrintableAscii digits.toList) :
    IsPrintableAscii (stripZeros digits).toList := by
  rw [stripZeros]
  split
  · decide
  · rw [String.toList_ofList]
    refine h.subset fun c hc => ?_
    exact List.mem_reverse.mp ((List.dropWhile_sublist _).subset (List.mem_reverse.mp hc))

/-- A number with a point among its digits, in front of them or behind them, where zeros fill up the gap. -/
theorem isPrintableAscii_positional (h : IsPrintableAscii digits.toList) (point : Int) :
    IsPrintableAscii (positional digits point).toList := by
  unfold positional
  dsimp only
  split
  · rw [String.toList_append, String.toList_append]
    exact .append (.append (by decide) (isPrintableAscii_zeros _)) h
  · split
    · rw [String.toList_append, String.toList_append]
      exact .append (.append h (isPrintableAscii_zeros _)) (by decide)
    · rw [String.toList_append, String.toList_append]
      exact .append (.append (isPrintableAscii_take h _) (by decide)) (isPrintableAscii_drop h _)

theorem isPrintableAscii_exponentText (e : Int) : IsPrintableAscii (exponentText e).toList := by
  have hdigits := isPrintableAscii_repr e.natAbs
  have hsign : IsPrintableAscii (if e < 0 then "-" else "+").toList := by
    split <;> decide
  rw [exponentText, String.toList_append]
  refine hsign.append ?_
  split
  · rw [String.toList_append]
    exact .append (by decide) hdigits
  · exact hdigits

/-- A number with an exponent has the point behind its first digit. -/
theorem isPrintableAscii_scientific (h : IsPrintableAscii digits.toList) (e : Int) :
    IsPrintableAscii (scientific digits e).toList := by
  have hfraction : IsPrintableAscii (if digits.length ≤ 1 then "" else "." ++ (digits.drop 1).toString).toList := by
    split
    · decide
    · rw [String.toList_append]
      exact .append (by decide) (isPrintableAscii_drop h 1)
  rw [scientific, String.toList_append, String.toList_append, String.toList_append]
  exact (((isPrintableAscii_take h 1).append hfraction).append (by decide)).append (isPrintableAscii_exponentText e)

/-- **A floating point number is written with printable characters**, whichever notation is chosen for it. -/
theorem isPrintableAscii_text (x : Binary64) : IsPrintableAscii x.text.toList := by
  cases x with
  | nan => decide
  | infinity negative => cases negative <;> decide
  | finite negative significand exponent =>
    have hdigits := isPrintableAscii_stripZeros (isPrintableAscii_repr (shortest significand exponent).1)
    have hsign : IsPrintableAscii (if negative = true then "-" else "").toList := by
      split <;> decide
    rw [text, String.toList_append]
    refine hsign.append ?_
    split
    · decide
    · dsimp only
      split
      · exact isPrintableAscii_positional hdigits _
      · exact isPrintableAscii_scientific hdigits _

end Binary64

end Number

/-! ### Documents -/

namespace JsonTree

theorem isPrintableAscii_unitEscape (n : Nat) : IsPrintableAscii (unitEscape n) :=
  .cons (by decide) (.cons (by decide) (isPrintableAscii_hexDigitsOnto 4 n (by decide)))

/-- A character is escaped where it is not printable or not of ASCII. -/
theorem isPrintableAscii_escapeChar (c : Char) : IsPrintableAscii (escapeChar c) := by
  unfold escapeChar
  split_ifs with hquote hfeed hreturn htab hpage hback hprintable hunit
  · simp only [Bool.or_eq_true, decide_eq_true_iff] at hquote
    rcases hquote with rfl | rfl
    · decide
    · decide
  · decide
  · decide
  · decide
  · decide
  · decide
  · rw [Bool.and_eq_true, decide_eq_true_iff, decide_eq_true_iff] at hprintable
    intro d hd
    rw [List.mem_singleton.mp hd]
    exact hprintable
  · exact isPrintableAscii_unitEscape _
  · exact (isPrintableAscii_unitEscape _).append (isPrintableAscii_unitEscape _)

/-- **What is between quotes is printable**: each character that is not is replaced by an escape. -/
theorem isPrintableAscii_quoteChars (s : String) : IsPrintableAscii (quoteChars s) := by
  have hescaped : IsPrintableAscii (s.toList.flatMap escapeChar) := by
    intro c hc
    obtain ⟨d, -, hd⟩ := List.mem_flatMap.mp hc
    exact isPrintableAscii_escapeChar d c hd
  exact .cons (by decide) (hescaped.append (by decide))

theorem isPrintableAscii_printItems {xs : List JsonTree} (h : ∀ x ∈ xs, IsPrintableAscii x.print) (isFirst : Bool) :
    IsPrintableAscii (printItems isFirst xs) := by
  induction xs generalizing isFirst with
  | nil => exact fun _ hc => nomatch hc
  | cons x xs ih =>
    have hcomma : IsPrintableAscii (if isFirst = true then [] else [',']) := by
      split <;> decide
    rw [printItems]
    exact hcomma.append ((h x List.mem_cons_self).append (ih (fun y hy => h y (List.mem_cons_of_mem x hy)) false))

theorem isPrintableAscii_printFields {fs : List (String × JsonTree)} (h : ∀ f ∈ fs, IsPrintableAscii f.2.print)
    (isFirst : Bool) : IsPrintableAscii (printFields isFirst fs) := by
  induction fs generalizing isFirst with
  | nil => exact fun _ hc => nomatch hc
  | cons f fs ih =>
    have hcomma : IsPrintableAscii (if isFirst = true then [] else [',']) := by
      split <;> decide
    have hfield : IsPrintableAscii (printField f) := by
      rw [printField]
      exact (isPrintableAscii_quoteChars f.1).append (.cons (by decide) (h f List.mem_cons_self))
    rw [printFields]
    exact hcomma.append (hfield.append (ih (fun e he => h e (List.mem_cons_of_mem f he)) false))

/-- The elements are printable and so is what stands between them. -/
theorem isPrintableAscii_array {xs : List JsonTree} (h : ∀ x ∈ xs, IsPrintableAscii x.print) :
    IsPrintableAscii (array xs).print := by
  rw [print]
  exact .cons (by decide) ((isPrintableAscii_printItems h true).append (by decide))

theorem isPrintableAscii_object {fs : List (String × JsonTree)} (h : ∀ f ∈ fs, IsPrintableAscii f.2.print) :
    IsPrintableAscii (object fs).print := by
  rw [print]
  exact .cons (by decide) ((isPrintableAscii_printFields h true).append (by decide))

end JsonTree

/-! ### Documents of data -/

theorem except_bind_eq_ok_iff {α β : Type} {x : Except Fault α} {k : α → Except Fault β} {y : β} :
    x >>= k = .ok y ↔ ∃ a, x = .ok a ∧ k a = .ok y := by
  rcases x with f | a
  · constructor
    · exact nofun
    · exact nofun
  · constructor
    · intro h
      exact ⟨a, rfl, h⟩
    · rintro ⟨_, ha, h⟩
      obtain rfl := Except.ok.inj ha
      exact h

/-- A list of results is the result of a list, if each of them is there. -/
theorem mapM_eq_ok_iff {α β : Type} {f : α → Except Fault β} {xs : List α} {ys : List β} :
    xs.mapM f = .ok ys ↔ List.Forall₂ (fun x y => f x = .ok y) xs ys := by
  induction xs generalizing ys with
  | nil =>
    rw [List.mapM_nil, List.forall₂_nil_left_iff]
    exact ⟨fun h => (Except.ok.inj h).symm, fun h => h ▸ rfl⟩
  | cons x xs ih =>
    rw [List.mapM_cons, List.forall₂_cons_left_iff, except_bind_eq_ok_iff]
    simp only [except_bind_eq_ok_iff]
    constructor
    · rintro ⟨y, hx, zs, hxs, h⟩
      exact ⟨y, zs, hx, ih.mp hxs, (Except.ok.inj h).symm⟩
    · rintro ⟨y, zs, hx, hxs, rfl⟩
      exact ⟨y, hx, zs, ih.mpr hxs, rfl⟩

theorem exists_mapM_eq_ok_iff {α β : Type} {f : α → Except Fault β} {xs : List α} :
    (∃ ys, xs.mapM f = .ok ys) ↔ ∀ x ∈ xs, ∃ y, f x = .ok y := by
  induction xs with
  | nil => exact ⟨fun _ => nofun, fun _ => ⟨[], rfl⟩⟩
  | cons x xs ih =>
    rw [List.forall_mem_cons, ← ih, List.mapM_cons]
    simp only [except_bind_eq_ok_iff]
    constructor
    · rintro ⟨_, y, hy, ys, hys, -⟩
      exact ⟨⟨y, hy⟩, ys, hys⟩
    · rintro ⟨⟨y, hy⟩, ys, hys⟩
      exact ⟨y :: ys, y, hy, ys, hys, rfl⟩

/-- What is in a list of results is one of the results. -/
theorem exists_of_mem_of_mapM {α β : Type} {f : α → Except Fault β} {xs : List α} {ys : List β}
    (h : xs.mapM f = .ok ys) {y : β} (hy : y ∈ ys) : ∃ x ∈ xs, f x = .ok y := by
  have hall := mapM_eq_ok_iff.mp h
  clear h
  induction hall with
  | nil => exact nomatch hy
  | cons hx _ ih =>
    rcases List.mem_cons.mp hy with rfl | hy
    · exact ⟨_, List.mem_cons_self, hx⟩
    · obtain ⟨z, hz, hzy⟩ := ih hy
      exact ⟨z, List.mem_cons_of_mem _ hz, hzy⟩

namespace Graph

variable {g : Graph} {m : Memory}

/-- Infinities and what is no number have names instead of digits. -/
theorem isPrintableAscii_jsonFloat (x : Number.Binary64) : IsPrintableAscii (jsonFloat x).toList := by
  cases x with
  | nan => decide
  | infinity negative => cases negative <;> decide
  | finite negative significand exponent => exact Number.Binary64.isPrintableAscii_text _

theorem exists_of_map_string {text : Except Fault String} {j : JsonTree} (h : text.map .string = .ok j) :
    ∃ s, j = .string s := by
  rcases text with f | s
  · exact nomatch h
  · exact ⟨s, (Except.ok.inj h).symm⟩

/-- The document of an object is text, or it is made of the documents of what the object has. -/
theorem exists_of_jsonTo_ref {depth i : Nat} {around : List Nat} {j : JsonTree}
    (h : g.jsonTo m (depth + 1) around (.ref i) = .ok j) :
    (∃ s, j = .string s) ∨
      (∃ (vs : List Value) (xs : List JsonTree), vs.mapM (g.jsonTo m depth (i :: around)) = .ok xs ∧ j = .array xs) ∨
        ∃ (es : Entries) (fs : List (String × JsonTree)), (es.mapM fun e => do
          let k ← g.jsonKey e.1
          return (k, ← g.jsonTo m depth (i :: around) e.2)) = .ok fs ∧ j = .object fs := by
  rcases hnode : g.node? (.ref i) with _ | n
  · simp only [jsonTo, hnode] at h
    exact .inl (exists_of_map_string h)
  · rcases hitems : jsonItems? n with _ | vs
    · rcases hentries : jsonEntries? m i n with _ | es
      · simp only [jsonTo, hnode, hitems, hentries] at h
        exact .inl (exists_of_map_string h)
      · simp only [jsonTo, hnode, hitems, hentries] at h
        split at h
        · exact nomatch h
        · obtain ⟨fs, hfs, hj⟩ := except_bind_eq_ok_iff.mp h
          exact .inr (.inr ⟨es, fs, hfs, (Except.ok.inj hj).symm⟩)
    · simp only [jsonTo, hnode, hitems] at h
      split at h
      · exact nomatch h
      · obtain ⟨xs, hxs, hj⟩ := except_bind_eq_ok_iff.mp h
        exact .inr (.inl ⟨vs, xs, hxs, (Except.ok.inj hj).symm⟩)

/-- A tree is printable at whatever depth it was made. The induction is on the depth, since the values inside are one
level deeper, and a value that is inside itself has no tree. -/
theorem isPrintableAscii_of_jsonTo (depth : Nat) {around : List Nat} {v : Value} {j : JsonTree}
    (h : g.jsonTo m depth around v = .ok j) : IsPrintableAscii j.print := by
  induction depth generalizing around v j with
  | zero => exact nomatch h
  | succ depth ih =>
    cases v with
    | null =>
      obtain rfl := Except.ok.inj h
      decide
    | bool b =>
      obtain rfl := Except.ok.inj h
      cases b <;> decide
    | int n =>
      change (integerText n).map .number = .ok j at h
      rcases htext : integerText n with f | text
      · rw [htext] at h
        exact nomatch h
      · rw [htext] at h
        obtain rfl := Except.ok.inj h
        exact Number.isPrintableAscii_integerText htext
    | float x =>
      obtain rfl := Except.ok.inj h
      exact isPrintableAscii_jsonFloat x
    | text s =>
      obtain rfl := Except.ok.inj h
      exact JsonTree.isPrintableAscii_quoteChars s
    | decimal d =>
      change (g.display m (.decimal d)).map .string = .ok j at h
      obtain ⟨s, rfl⟩ := exists_of_map_string h
      exact JsonTree.isPrintableAscii_quoteChars s
    | bytes bs =>
      change (g.display m (.bytes bs)).map .string = .ok j at h
      obtain ⟨s, rfl⟩ := exists_of_map_string h
      exact JsonTree.isPrintableAscii_quoteChars s
    | ref i =>
      obtain ⟨s, rfl⟩ | ⟨vs, xs, hxs, rfl⟩ | ⟨es, fs, hfs, rfl⟩ := exists_of_jsonTo_ref h
      · exact JsonTree.isPrintableAscii_quoteChars s
      · refine JsonTree.isPrintableAscii_array fun x hx => ?_
        obtain ⟨v, -, hv⟩ := exists_of_mem_of_mapM hxs hx
        exact ih hv
      · refine JsonTree.isPrintableAscii_object fun f hf => ?_
        obtain ⟨e, -, he⟩ := exists_of_mem_of_mapM hfs hf
        obtain ⟨k, -, hk⟩ := except_bind_eq_ok_iff.mp he
        obtain ⟨x, hx, hpair⟩ := except_bind_eq_ok_iff.mp hk
        obtain rfl := Except.ok.inj hpair
        exact ih hx

/-- **The text of a document of data is printable ASCII.** -/
theorem isPrintableAscii_of_json {v : Value} {j : JsonTree} (h : g.json m v = .ok j) : IsPrintableAscii j.print :=
  isPrintableAscii_of_jsonTo displayDepth h

end Graph

end Stencil
