/-!
The URIs and names to which the store gives a meaning of its own.
-/

namespace GraphSegments.Vocabulary

def coreDomain : String := "http://vital.ai/ontology/vital-core"

def messageDomain : String := "http://vital.ai/ontology/vital-aimp"

/-- The property that holds the class of an object. -/
def vitaltype : String := "http://vital.ai/ontology/vital-core#vitaltype"

/-- The property that holds all types of an object. -/
def types : String := "http://www.w3.org/1999/02/22-rdf-syntax-ns#type"

/-- The property that holds the URI of an object. -/
def uriProperty : String := "http://vital.ai/ontology/vital-core#URIProp"

/-- The property that holds the ontology with which an object was written. -/
def hasOntologyIri : String := "http://vital.ai/ontology/vital-core#hasOntologyIRI"

/-- The property that holds the version of that ontology. -/
def hasVersionIri : String := "http://vital.ai/ontology/vital-core#hasVersionIRI"

def hasTimestamp : String := "http://vital.ai/ontology/vital-core#hasTimestamp"

def hasChannel : String := "http://vital.ai/ontology/vital-aimp#hasChannelURI"

def containerClass : String := "http://vital.ai/ontology/vital-core#VITAL_GraphContainerObject"

def nodeClass : String := "http://vital.ai/ontology/vital-core#VITAL_Node"

def messageClass : String := "http://vital.ai/ontology/vital-aimp#AIMPMessage"

/-- Stands for the URI of an object in criteria and sort keys. -/
def uriPseudo : String := "URI"

/-- Stands for the order of matches within and across segments. -/
def indexOrderPseudo : String := "INDEXORDER"

/-- Stands for relevance, by which segments cannot sort. -/
def relevancePseudo : String := "RELEVANCE"

/-- Properties that describe the object itself. They are written from the object and consumed
while it is read back. -/
def structural : List String := [vitaltype, types, uriProperty, hasOntologyIri, hasVersionIri]

def isStructural (property : String) : Bool := structural.contains property

end GraphSegments.Vocabulary
