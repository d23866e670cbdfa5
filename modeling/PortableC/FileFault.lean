namespace PortableC

/-! Why a file could not be read or written. -/

inductive FileFault where
  | notFound
  | notADirectory
  | isADirectory
  | notUtf8
  | nameTooLong
  | nulInPath
  | other (description : String)
deriving DecidableEq, Repr

def FileFault.message : FileFault → String
  | .notFound => "No such file or directory (os error 2)"
  | .notADirectory => "Not a directory (os error 20)"
  | .isADirectory => "Is a directory (os error 21)"
  | .notUtf8 => "stream did not contain valid UTF-8"
  | .nameTooLong => "File name too long (os error 36)"
  | .nulInPath => "file name contained an unexpected NUL byte"
  | .other description => description

end PortableC
