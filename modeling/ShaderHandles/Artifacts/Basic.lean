import ShaderHandles.Digest.Xxh3

/-!
# Artifacts

The two generated texts and their fingerprint. The bytes of both texts are digested with a zero byte
between them. Among texts that hold no zero character this keeps pairs apart that only differ in where
the first text ends.

* `Artifacts.fingerprint`: the hexadecimal digits of the digest.
-/

namespace ShaderHandles

/-- The two generated texts: the C header and the C source. -/
structure Artifacts where
  interface : String
  implementation : String
  deriving DecidableEq

namespace Artifacts

/-- The bytes that the fingerprint is made of. -/
def fingerprintInput (artifacts : Artifacts) : ByteArray :=
  artifacts.interface.toUTF8.push 0 ++ artifacts.implementation.toUTF8

def fingerprint (artifacts : Artifacts) : String :=
  (Digest.digest artifacts.fingerprintInput).hex

end Artifacts

end ShaderHandles
