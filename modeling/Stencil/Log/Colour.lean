import Stencil.Log.Layout

/-!
# What a coloured line looks like

With colours, a line has sequences that switch a style on and off, each of which begins with an escape character. A line
is *closed* if it consists of unstyled characters and of stretches in a style, each with its own end
(`Stencil.Style.Closed`): whatever is switched on is switched off before the next style begins, and before the line
ends.

That the sequences can be told from the text around them asks that the text has no escape character of its own, which
the layout does not see to: `Stencil.Record.IsFreeOfEscapes` says so of what a record shows.
-/

namespace Stencil

/-- Whether a text has no escape character. -/
def Text.IsEscapeFree (text : String) : Prop := '\x1b' ∉ text.toList

instance (text : String) : Decidable (Text.IsEscapeFree text) := inferInstanceAs (Decidable (_ ∉ _))

/-- **Whether each style that is switched on in a line is switched off** before another is switched on, and before the
line ends. There are no other escape characters than those of the styles. -/
inductive Style.Closed : List Char → Prop
  | nil : Closed []
  | unstyled {c : Char} {cs : List Char} (hc : c ≠ '\x1b') : Closed cs → Closed (c :: cs)
  | styled (style : Style) {text : String} {cs : List Char} (htext : Text.IsEscapeFree text) :
      Closed cs → Closed (style.on.toList ++ (text.toList ++ (Style.off.toList ++ cs)))

/-- **Whether what a record shows has no escape character**: its scope, what it says, the partial that it is about, and
its path. The line in the program is a number. -/
structure Record.IsFreeOfEscapes (g : Graph) (r : Record) (σ : RunState) : Prop where
  scope {scope : Value} {text : String} (h : r.scope g σ.memory = .ok scope)
    (htext : g.display σ.memory scope = .ok text) : Text.IsEscapeFree text
  said {text : String} {τ : RunState} (h : (r.said g).runFrom σ = (.ok (.text text), τ)) : Text.IsEscapeFree text
  partialName {said : Value} {text : String} {τ : RunState} (h : (r.said g).runFrom σ = (.ok said, τ))
    (htext : g.display τ.memory (r.attributeOf "partial") = .ok text) : Text.IsEscapeFree text
  path : Text.IsEscapeFree r.path
  line : ∃ n, r.line = .int n

end Stencil
