import CanvasChart.Canvas.Recorder

set_option autoImplicit false

/-! Canvas elements: a recording canvas with named attributes, and documents that
hold elements by their ids. -/

namespace CanvasChart

structure Element (α : Type) where
  canvas : Recorder α
  attributes : List (String × String)

namespace Element

variable {α : Type} [Scalar α]

def new : Element α := ⟨.new, []⟩

def attribute? (element : Element α) (name : String) : Option String :=
  element.attributes.lookup name

def setAttribute (element : Element α) (name value : String) : Element α :=
  { element with attributes := Association.put name value element.attributes }

def withSize (width height : α) : Element α :=
  (new.setAttribute "width" (Scalar.shortest width)).setAttribute "height" (Scalar.shortest height)

def length? (element : Element α) (name : String) : Option α := do
  let text ← element.attribute? name
  let value ← Decimal.number? (Text.trim text.toList)
  if 0 < value then some value else none

/-- A length from the options, written back to the attribute, or else the length
that the attribute holds, or else the fallback. -/
def resolveLength (element : Element α) (name : String) (configured : Option α) (fallback : α) :
    α × Element α :=
  match configured with
  | some value => (value, element.setAttribute name (Scalar.shortest value))
  | none => ((element.length? name).getD fallback, element)

end Element

/-- Elements by id; of several elements with one id the first counts. -/
structure Document (α : Type) where
  elements : List (String × Element α)

def Document.element? {α : Type} (document : Document α) (id : String) : Option (Element α) :=
  document.elements.lookup id

end CanvasChart
