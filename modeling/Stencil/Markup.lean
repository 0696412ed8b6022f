import Stencil.Template.Nesting
import Stencil.Render

/-!
# Markup in what is rendered

A template writes markup in its texts, and data can bring markup into the output only where a value is shown as it is.
This file says what is asked of a template, and of the partials that it is rendered with, so that data brings none: the
templates that matter are those of `Stencil.Setting.Involves`, the template itself and those that entries of the
partials are read as. Which of these are rendered, and in which scopes, does not matter.
-/

namespace Stencil

namespace Text

/-- The characters that set markup apart from text and that delimit its attributes. -/
def markupDelimiters : List Char := ['<', '>', '"', '\'']

/-- Whether a text has none of the `markupDelimiters`. -/
def IsFreeOfMarkup (cs : List Char) : Prop := ∀ c ∈ cs, c ∉ markupDelimiters

instance (cs : List Char) : Decidable (IsFreeOfMarkup cs) := List.decidableBAll (· ∉ markupDelimiters) cs

/-- The words that escaping writes in place of characters. -/
def entities : List String := ["&amp;", "&lt;", "&gt;", "&quot;", "&apos;"]

/-- Whether every ampersand begins one of the `entities`. -/
def AmpersandsBeginEntities (cs : List Char) : Prop :=
  ∀ before after : List Char, cs = before ++ '&' :: after → ∃ e ∈ entities, e.toList <+: '&' :: after

end Text

/-- The values that a map holds, and those that it answers with for keys that it lacks. -/
def MapView.values : MapView → List Value
  | single es => es.map Prod.snd
  | layered ls => ls.flatMap fun l => l.entries.map Prod.snd ++ (l.fallback.map Prod.snd).toList

namespace Setting

/-- Whether the partials of a rendering that begins with a memory have an entry that is the text, at the beginning or
among what tables gain on the way. -/
def Offers (s : Setting) (m : Memory) (source : String) : Prop :=
  ∃ m' view, s.graph.Evolves m m' ∧ s.graph.partialsView? m' s.partials = some view ∧ .text source ∈ view.values

/-- The templates that matter to a rendering: the one that is rendered, and those behind the entries of the partials
that can be read. -/
inductive Involves (s : Setting) (m : Memory) (t : Template) : Template → Prop
  | itself : Involves s m t t
  | entry {source : String} {body : Template} : s.Offers m source → Template.parse source = .ok body →
    Involves s m t body

end Setting

end Stencil
