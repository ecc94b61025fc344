/-! The namespaces of the vocabularies that a service description is written in. -/
namespace ServiceDescription.Vocabulary

def wsdl : String := "http://schemas.xmlsoap.org/wsdl/"
def xsd : String := "http://www.w3.org/2001/XMLSchema"
def soap11 : String := "http://schemas.xmlsoap.org/wsdl/soap/"
def soap12 : String := "http://schemas.xmlsoap.org/wsdl/soap12/"
def http : String := "http://schemas.xmlsoap.org/wsdl/http/"
def xml : String := "http://www.w3.org/XML/1998/namespace"
def xmlns : String := "http://www.w3.org/2000/xmlns/"

end ServiceDescription.Vocabulary
