/-!
# Failures of file operations

A file operation fails with a system error, which has a number, or with an error of a known kind,
described in general words or in words of its own.
-/

namespace StylesheetBuild

inductive IoKind where
  | notFound
  | permissionDenied
  | alreadyExists
  | isADirectory
  | notADirectory
  | directoryNotEmpty
  | invalidData
  | invalidInput
  | invalidFilename
  | storageFull
  | timedOut
  | unexpectedEof
  | uncategorized
  | other
deriving DecidableEq

namespace IoKind

def name : IoKind → String
  | notFound => "NotFound"
  | permissionDenied => "PermissionDenied"
  | alreadyExists => "AlreadyExists"
  | isADirectory => "IsADirectory"
  | notADirectory => "NotADirectory"
  | directoryNotEmpty => "DirectoryNotEmpty"
  | invalidData => "InvalidData"
  | invalidInput => "InvalidInput"
  | invalidFilename => "InvalidFilename"
  | storageFull => "StorageFull"
  | timedOut => "TimedOut"
  | unexpectedEof => "UnexpectedEof"
  | uncategorized => "Uncategorized"
  | other => "Other"

def description : IoKind → String
  | notFound => "entity not found"
  | permissionDenied => "permission denied"
  | alreadyExists => "entity already exists"
  | isADirectory => "is a directory"
  | notADirectory => "not a directory"
  | directoryNotEmpty => "directory not empty"
  | invalidData => "invalid data"
  | invalidInput => "invalid input parameter"
  | invalidFilename => "invalid filename"
  | storageFull => "no storage space"
  | timedOut => "timed out"
  | unexpectedEof => "unexpected end of file"
  | uncategorized => "uncategorized error"
  | other => "other error"

/-- The kinds that an operation on files is known to fail with. -/
def all : List IoKind :=
  [notFound, permissionDenied, alreadyExists, isADirectory, notADirectory, directoryNotEmpty,
   invalidData, invalidInput, invalidFilename, storageFull, timedOut, unexpectedEof, uncategorized,
   other]

def ofName? (name : String) : Option IoKind :=
  all.find? fun k => k.name == name

/-- The short code that users recognise; kinds without one of their own share `EIO`. -/
def code : IoKind → String
  | notFound => "ENOENT"
  | permissionDenied => "EACCES"
  | alreadyExists => "EEXIST"
  | isADirectory => "EISDIR"
  | notADirectory => "ENOTDIR"
  | _ => "EIO"

/-- Whether the file itself could not be opened. -/
def isUnopenable : IoKind → Bool
  | notFound | permissionDenied => true
  | _ => false

end IoKind

/-- The kind and the text of a system error number. -/
def systemError (number : Int) : IoKind × String :=
  match number with
  | 1 => (.permissionDenied, "Operation not permitted")
  | 2 => (.notFound, "No such file or directory")
  | 5 => (.uncategorized, "Input/output error")
  | 13 => (.permissionDenied, "Permission denied")
  | 17 => (.alreadyExists, "File exists")
  | 20 => (.notADirectory, "Not a directory")
  | 21 => (.isADirectory, "Is a directory")
  | 22 => (.invalidInput, "Invalid argument")
  | 28 => (.storageFull, "No space left on device")
  | 36 => (.invalidFilename, "File name too long")
  | 39 => (.directoryNotEmpty, "Directory not empty")
  | n => (.uncategorized, "Unknown error " ++ toString n)

inductive IoError where
  | system (number : Int)
  | general (kind : IoKind)
  | worded (kind : IoKind) (text : String)
deriving DecidableEq

namespace IoError

def kind : IoError → IoKind
  | system number => (systemError number).1
  | general kind => kind
  | worded kind _ => kind

def message : IoError → String
  | system number => (systemError number).2 ++ " (os error " ++ toString number ++ ")"
  | general kind => kind.description
  | worded _ text => text

def code (e : IoError) : String :=
  e.kind.code

def notFound : IoError := system 2

def fileExists : IoError := system 17

def notADirectory : IoError := system 20

def isADirectory : IoError := system 21

def nameTooLong : IoError := system 36

/-- A file read as text has to be valid UTF-8. -/
def notText : IoError := worded .invalidData "stream did not contain valid UTF-8"

def nulInPath : IoError := worded .invalidInput "file name contained an unexpected NUL byte"

def emptyPath : IoError := worded .invalidInput "cannot make an empty path absolute"

end IoError

end StylesheetBuild
