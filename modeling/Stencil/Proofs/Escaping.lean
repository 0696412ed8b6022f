import Mathlib.Data.List.Basic
import Stencil.Text.Entity

/-!
# Escaping in turn is escaping character by character, and can be undone

Escaping replaces five characters by entities. Done in turn, it reads what it has written: each replacement goes over
the whole text, and so over the entities that earlier ones have put there. This does no harm since the ampersand, with
which all entities begin, is replaced first, and the other four characters occur in no entity
(`Stencil.Text.escapeInTurn_eq`).

An entity is told from the text around it by its ampersand, as escaped text has no other ones. So reading the entities
back gives the text that was escaped (`Stencil.Text.unescapeChars_escapeChars`), whether or not that had entities in it
already.
-/

namespace Stencil.Text

/-! ### Replacements over the whole text -/

theorem replaceChar_of_notMem {c : Char} {cs : List Char} (h : c ∉ cs) (word : List Char) :
    replaceChar c word cs = cs := by
  induction cs with
  | nil => rfl
  | cons d cs ih =>
    obtain ⟨hd, hcs⟩ := not_or.mp (mt List.mem_cons.mpr h)
    rw [replaceChar, List.flatMap_cons, if_neg (Ne.symm hd)]
    exact congrArg (d :: ·) (ih hcs)

/-- Replacing characters in turn changes nothing where none of them occurs. -/
theorem foldl_replaceChar_of_notMem {order cs : List Char} (h : ∀ c ∈ order, c ∉ cs) (word : Char → List Char) :
    order.foldl (fun text c => replaceChar c (word c) text) cs = cs := by
  induction order with
  | nil => rfl
  | cons c order ih =>
    rw [List.foldl_cons, replaceChar_of_notMem (h c List.mem_cons_self)]
    exact ih fun d hd => h d (List.mem_cons_of_mem _ hd)

/-- Replacing characters in turn can be done for each character of a text on its own, since each replacement can. -/
theorem foldl_replaceChar (order : List Char) (word : Char → List Char) (cs : List Char) :
    order.foldl (fun text c => replaceChar c (word c) text) cs =
      cs.flatMap fun d => order.foldl (fun text c => replaceChar c (word c) text) [d] := by
  -- The first replacement makes several characters of one, so that the hypothesis is needed for all texts.
  induction order generalizing cs with
  | nil => exact (List.flatMap_singleton' cs).symm
  | cons c order ih =>
    have hone (d : Char) : (c :: order).foldl (fun text c => replaceChar c (word c) text) [d] =
        (if d = c then word c else [d]).flatMap fun d' =>
          order.foldl (fun text c => replaceChar c (word c) text) [d'] := by
      rw [List.foldl_cons, ih, replaceChar, List.flatMap_singleton]
    rw [List.foldl_cons, ih, replaceChar, List.flatMap_assoc]
    exact List.flatMap_congr fun d _ => (hone d).symm

theorem escapeChar_of_notMem {c : Char} (h : c ∉ escapeOrder) : escapeChar c = [c] := by
  have hnone : entity? c = none := by
    unfold entity?
    split
    all_goals first | rfl | exact absurd (by decide) h
  rw [escapeChar, hnone, Option.getD_none]

/-- The replacements after the one that writes an entity leave the entity as it is. -/
theorem escapeInTurn_singleton (c : Char) : escapeInTurn [c] = escapeChar c := by
  by_cases hc : c ∈ escapeOrder
  · simp only [escapeOrder, List.mem_cons, List.not_mem_nil, or_false] at hc
    rcases hc with rfl | rfl | rfl | rfl | rfl <;> decide
  · rw [escapeChar_of_notMem hc]
    refine foldl_replaceChar_of_notMem (fun d hd hmem => hc ?_) escapeChar
    rwa [← List.mem_singleton.mp hmem]

/-- **Replacing the five characters in turn is replacing each character on its own.** -/
theorem escapeInTurn_eq (cs : List Char) : escapeInTurn cs = escapeChars cs := by
  rw [escapeInTurn, foldl_replaceChar]
  exact List.flatMap_congr fun c _ => escapeInTurn_singleton c

/-! ### Reading the entities back -/

theorem unescapeChars_cons_of_ne {c : Char} (h : c ≠ '&') (cs : List Char) :
    unescapeChars (c :: cs) = c :: unescapeChars cs := by
  rw [unescapeChars] <;> exact fun _ heq _ => absurd heq h

theorem unescapeChars_escapeChar_append (c : Char) (cs : List Char) :
    unescapeChars (escapeChar c ++ cs) = c :: unescapeChars cs := by
  by_cases hc : c ∈ escapeOrder
  · simp only [escapeOrder, List.mem_cons, List.not_mem_nil, or_false] at hc
    rcases hc with rfl | rfl | rfl | rfl | rfl <;> rfl
  · rw [escapeChar_of_notMem hc]
    refine unescapeChars_cons_of_ne (fun hamp => hc ?_) cs
    rw [hamp]
    exact List.mem_cons_self

/-- **Reading the entities of escaped text back gives the text.** -/
theorem unescapeChars_escapeChars (cs : List Char) : unescapeChars (escapeChars cs) = cs := by
  induction cs with
  | nil => rfl
  | cons c cs ih =>
    rw [escapeChars, List.flatMap_cons, unescapeChars_escapeChar_append]
    exact congrArg (c :: ·) ih

theorem escape_append (a b : String) : escape (a ++ b) = escape a ++ escape b := by
  rw [escape, escape, escape, String.toList_append, escapeChars, List.flatMap_append, String.ofList_append]
  rfl

/-- **Escaping in turn is escaping character by character, and loses nothing**: the texts of two parts are escaped one
after the other, reading the entities back gives the text that was escaped, and no other text is escaped in the same
way. -/
theorem escape_faithful (a b : String) :
    String.ofList (escapeInTurn a.toList) = escape a ∧ escape (a ++ b) = escape a ++ escape b ∧
      String.ofList (unescapeChars (escape a).toList) = a ∧ (escape a = escape b ↔ a = b) := by
  have hback (s : String) : String.ofList (unescapeChars (escape s).toList) = s := by
    rw [escape, String.toList_ofList, unescapeChars_escapeChars, String.ofList_toList]
  refine ⟨?_, escape_append a b, hback a, fun heq => ?_, congrArg escape⟩
  · rw [escapeInTurn_eq, escape]
  · rw [← hback a, heq, hback b]

/-- Text with an entity in it is escaped like any other. -/
example : escapeInTurn ['&', 'l', 't', ';', '<'] = ['&', 'a', 'm', 'p', ';', 'l', 't', ';', '&', 'l', 't', ';'] := by
  decide

end Stencil.Text
