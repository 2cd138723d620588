import InputMap.File
import InputMap.Profile.Document

/-! # Profiles in files

A profile is kept in a file as the text of its document. -/

namespace InputMap

/-- Why a file gives no profile. -/
inductive ProfileFileError where
  | file (fault : FileFault)
  | parse (error : Toml.ParseError)
deriving DecidableEq

/-- The message of a file that gives no profile. -/
def ProfileFileError.message : ProfileFileError → String
  | file fault => "Failed to access profile file: " ++ fault.message
  | parse error => "Failed to parse profile: " ++ error.message

namespace Profile

/-- The profile of a file, from its bytes if it is there. -/
def load (content? : Option ByteArray) : Except ProfileFileError Profile :=
  match readText content? with
  | .error fault => .error (.file fault)
  | .ok text => (Profile.ofText text).mapError .parse

/-- What `load` tells. -/
def loadNotices (path : String) (content? : Option ByteArray) : List Notice :=
  .profileLoading path ::
    match load content? with
    | .ok p => [.profileLoaded p.name p.bindings.length]
    | .error _ => []

/-- The bytes of a profile's file. -/
def bytes (p : Profile) : ByteArray := p.text.toUTF8

/-- What writing a profile's file tells. -/
def saveNotices (p : Profile) (path : String) : List Notice := [.profileSaved p.name path]

end Profile

end InputMap
