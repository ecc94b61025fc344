import ServiceDescription.Xml.Located

/-! Elements as small documents have them: in no namespace and without declarations. -/
namespace ServiceDescription.Xml.Node

/-- An element with its attributes as pairs of a name and a value. -/
def plain (name : String) (attributes : List (String × String)) (content : List Node) : Node :=
  .element
    { name := ⟨"", name⟩
      declarations := []
      attributes := attributes.map fun a => { name := ⟨"", a.1⟩, value := a.2 } }
    content

end ServiceDescription.Xml.Node
