import TokenGovernance.Text.Numeral
import TokenGovernance.Text.Blank

/-! # Options of the command line

Words that start with two dashes, and the short forms of help and version, are options; the first
other word is the command, the second one its request, and further ones are ignored.
-/

namespace TokenGovernance.CommandLine

/-- What the words of a command line ask for. -/
structure Options where
  command : Option String := none
  request : Option String := none
  snapshot : Option String := none
  maxFee : Option UInt64 := none
  pretty : Bool := false
  help : Bool := false
  version : Bool := false
  deriving DecidableEq, Repr

inductive OptionFault
  | noSnapshot
  | noFee
  | fee (text : String) (fault : Numeral.Fault)
  | unknown (word : String)
  deriving DecidableEq, Repr

def OptionFault.message : OptionFault → String
  | .noSnapshot => "--snapshot needs a file"
  | .noFee => "--max-fee needs a value"
  | .fee text fault => "--max-fee: '" ++ text ++ "' is not a fee: " ++ fault.message
  | .unknown word => "Unknown option: " ++ word

inductive Word
  | help
  | version
  | pretty
  | snapshot
  | maxFee
  | unknown
  | plain
  deriving DecidableEq, Repr

/-- What a word is where no value of an option is awaited. -/
def Word.ofText (s : String) : Word :=
  if s = "-h" ∨ s = "--help" then .help
  else if s = "-V" ∨ s = "--version" then .version
  else if s = "--pretty" then .pretty
  else if s = "--snapshot" then .snapshot
  else if s = "--max-fee" then .maxFee
  else if ['-', '-'].isPrefixOf s.toList then .unknown
  else .plain

namespace Options

/-- A word that is no option: the command, its request, or one too many. -/
def withPlain (o : Options) (word : String) : Options :=
  if o.command.isNone then { o with command := some word }
  else if o.request.isNone then { o with request := some word }
  else o

def fee (text : String) : Except OptionFault UInt64 :=
  match Numeral.parse 10 UInt64.size text with
  | .ok n => .ok (UInt64.ofNat n)
  | .error fault => .error (.fee text fault)

/-- Reads words on top of what was read before. -/
def readFrom (o : Options) : List String → Except OptionFault Options
  | [] => .ok o
  | word :: rest =>
    match Word.ofText word with
    | .help => readFrom { o with help := true } rest
    | .version => readFrom { o with version := true } rest
    | .pretty => readFrom { o with pretty := true } rest
    | .snapshot =>
      match rest with
      | [] => .error .noSnapshot
      | path :: rest => readFrom { o with snapshot := some path } rest
    | .maxFee =>
      match rest with
      | [] => .error .noFee
      | text :: rest => do
        let maxFee ← fee text
        readFrom { o with maxFee := some maxFee } rest
    | .unknown => .error (.unknown word)
    | .plain => readFrom (o.withPlain word) rest

def read (words : List String) : Except OptionFault Options :=
  readFrom {} words

end Options
end TokenGovernance.CommandLine
