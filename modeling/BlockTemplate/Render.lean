import BlockTemplate.Processor.Evaluation
import BlockTemplate.Properties
/-!
# Expanding a template over data

The shortest way from a template and a JSON object to a text.
-/

namespace BlockTemplate

open Calendar (Moment)

/-- Properties as a resolver; asking them never fails. -/
def Properties.resolver {m : Type → Type} [Monad m] (p : Properties) : Resolver m :=
  fun name specifier => pure (.ok (p.lookup name specifier))

/-- A processor whose variables are the properties of a value. -/
def Processor.over {m : Type → Type} [Monad m] (bindings : Value) (settings : Settings)
    (present : Moment) : Processor m :=
  (Processor.new settings present).addResolver (Properties.ofValue bindings).resolver

/-- Expands a template over the fields of a JSON object. -/
def render (present : Moment) (settings : Settings) (source : String) (bindings : Json) :
    Except (Located TemplateError) String :=
  Id.run ((Processor.over (.ofJson bindings) settings present).process source)

end BlockTemplate
