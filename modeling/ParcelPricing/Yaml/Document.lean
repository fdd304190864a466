import ParcelPricing.Yaml.Node
import ParcelPricing.Yaml.Tokens

/-! Settings as YAML, in one document whose root is a table. -/
namespace ParcelPricing.Yaml

/-- Directives before a document, and what the last of them says about tags. -/
def readDirectives (versioned : Bool) : Reading → Option Reading
  | ⟨.version :: tokens, anchors, _⟩ =>
    if versioned then none else readDirectives true ⟨tokens, anchors, []⟩
  | ⟨.tagHandle handle target :: tokens, anchors, _⟩ =>
    readDirectives versioned ⟨tokens, anchors, [(handle, target)]⟩
  | r => some r
termination_by r => r.tokens.length

def skipEnds (tokens : List Token) : List Token := tokens.dropWhile Token.isDocumentEnd

/-- The node of the only document. A document with nothing in it has nothing as its node. -/
def readDocument (tokens : List Token) : Option (Node × Reading) := do
  let r ← readDirectives false { tokens }
  let fuel := 3 * tokens.length + 3
  match tokens.head?.any Token.isDirective, r.tokens with
  | _, .documentStart :: rest =>
    if rest.head?.all Token.isOutside then return (.null, r.tail)
    else r.tail.readNode fuel true false
  | false, _ => r.readNode fuel true false
  | true, _ => none

def read? (text : List Char) : Option Fields := do
  let tokens := skipEnds (← tokens? text)
  if tokens.isEmpty then return []
  let (node, r) ← readDocument tokens
  guard (skipEnds r.tokens).isEmpty
  (← node.setting?).fields?

end ParcelPricing.Yaml
