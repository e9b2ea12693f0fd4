import Stencil.Declaration.Json
import Stencil.Digest.Sha256
import Stencil.Graph.Basic
import Stencil.Text.Utf8

/-!
# Fingerprints

A fingerprint stands for a declaration together with its package.  It is the
digest of the package's octets, a zero octet, and the declaration's compact
JSON; as that text holds no zero octet, the last zero octet tells the two
parts apart.
-/

namespace Stencil

/-- The octets whose digest is the fingerprint of a declaration. -/
def Entry.preimage (entry : Entry) : List UInt8 :=
  Text.octets entry.package ++ [0] ++ Text.octets entry.declaration.toValue.toCompact

/-- The fingerprint of a declaration, in hexadecimal digits. -/
def Entry.fingerprint (entry : Entry) : String :=
  String.ofList (Digest.hex (Digest.sha256 entry.preimage))

/-- The fingerprint of the declaration with a name. -/
def Graph.fingerprint? (graph : Graph) (name : QualifiedName) : Option String :=
  (graph.entry? name).map Entry.fingerprint

end Stencil
