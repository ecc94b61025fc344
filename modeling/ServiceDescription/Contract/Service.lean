import ServiceDescription.Schema.Declaration
import ServiceDescription.Vocabulary

/-! Services and the ports at which they are reached. -/
namespace ServiceDescription.Contract
open Xml Schema

structure Port where
  name : String
  bindingName : String := ""
  bindingSpace : String := ""
  location : String := ""
  deriving DecidableEq, Repr

structure Service where
  name : String
  documentation : String := ""
  ports : List Port := []
  deriving DecidableEq, Repr

def addressNamespaces : List String := [Vocabulary.soap11, Vocabulary.soap12, Vocabulary.http]

def Port.ofNode (l : Located) (space : String) : Port :=
  let binding := (reference? l "binding" space).getD ⟨"", ""⟩
  let address := l.childNamed? "address" (some addressNamespaces)
  { name := l.attr "name"
    bindingName := binding.localName
    bindingSpace := binding.space
    location := (address.map (·.attr "location")).getD "" }

def Service.ofNode (l : Located) (space : String) : Service :=
  { name := l.attr "name"
    documentation := l.documentation
    ports := (l.childrenNamed "port" none).map (Port.ofNode · space) }

end ServiceDescription.Contract
