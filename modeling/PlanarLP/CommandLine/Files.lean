set_option autoImplicit false

namespace PlanarLP

namespace CommandLine

inductive ReadFault where
  | notFound
  | notDirectory
  | isDirectory
  | nameTooLong
  | nulInName
  | notText
  | other (description : String)
deriving DecidableEq, Repr

def ReadFault.message : ReadFault → String
  | .notFound => "No such file or directory (os error 2)"
  | .notDirectory => "Not a directory (os error 20)"
  | .isDirectory => "Is a directory (os error 21)"
  | .nameTooLong => "File name too long (os error 36)"
  | .nulInName => "file name contained an unexpected NUL byte"
  | .notText => "stream did not contain valid UTF-8"
  | .other description => description

abbrev Files := List (String × String)

namespace Files

-- Nothing is known of files outside the directory.
def follow (files : Files) : List String → Except ReadFault String
  | [] => .error .isDirectory
  | step :: rest =>
      if step = "" ∨ step = "." then files.follow rest
      else if step = ".." then follow [] rest
      else if 255 < step.utf8ByteSize then .error .nameTooLong
      else
        match files.lookup step with
        | none => .error .notFound
        | some content => if rest = [] then .ok content else .error .notDirectory

def read (files : Files) (path : String) : Except ReadFault String :=
  if path.toList.contains '\x00' then .error .nulInName
  else if 4095 < path.utf8ByteSize then .error .nameTooLong
  else follow (if path.startsWith "/" then [] else files) (path.splitOn "/")

end Files

end CommandLine

end PlanarLP
