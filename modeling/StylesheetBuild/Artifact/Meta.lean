import StylesheetBuild.Digest.Sha256
import StylesheetBuild.Path.Basic

/-!
# Written artifacts

What is reported of an artifact: its path, the digest of its text and its size in bytes.
-/

namespace StylesheetBuild

structure ArtifactMeta where
  path : Path
  sha256 : String
  sizeBytes : Nat
deriving DecidableEq

def ArtifactMeta.ofContent (path : Path) (content : String) : ArtifactMeta where
  path := path
  sha256 := Sha256.hex content.toUTF8.toList
  sizeBytes := content.utf8ByteSize

end StylesheetBuild
