/-!
# Failures

A `Failure` is an answer that an operation gives its caller. A `Fault` breaks off the computation in
which it arises.
-/

namespace PermissionGraph

inductive FileFailure
  | notFound
  | alreadyExists
  | notDirectory
  | isDirectory
  | nameTooLong
  | nulInName
  | notText
deriving DecidableEq

namespace FileFailure

def message : FileFailure → String
  | notFound => "No such file or directory (os error 2)"
  | alreadyExists => "File exists (os error 17)"
  | notDirectory => "Not a directory (os error 20)"
  | isDirectory => "Is a directory (os error 21)"
  | nameTooLong => "File name too long (os error 36)"
  | nulInName => "file name contained an unexpected NUL byte"
  | notText => "stream did not contain valid UTF-8"

end FileFailure

inductive Failure
  | permissionDenied (subject command : String)
  | configuration (text : String)
  | malformedDocument
  | file (cause : FileFailure)
  | internal (text : String)
deriving DecidableEq

namespace Failure

def message : Failure → String
  | permissionDenied subject command => "Permission denied for " ++ subject ++ ": " ++ command
  | configuration text => "Configuration error: " ++ text
  | malformedDocument => "Serialization error"
  | file cause => "IO error: " ++ cause.message
  | internal text => "Internal error: " ++ text

end Failure

structure Fault where
  message : String
deriving DecidableEq, Inhabited

instance decidableEqExcept {ε α : Type} [DecidableEq ε] [DecidableEq α] :
    DecidableEq (Except ε α)
  | .error e, .error e' => decidable_of_iff (e = e') ⟨congrArg Except.error, Except.error.inj⟩
  | .error _, .ok _ => isFalse nofun
  | .ok _, .error _ => isFalse nofun
  | .ok a, .ok a' => decidable_of_iff (a = a') ⟨congrArg Except.ok, Except.ok.inj⟩

end PermissionGraph
