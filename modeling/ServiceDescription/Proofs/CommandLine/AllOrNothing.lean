import ServiceDescription.CommandLine.Run
import ServiceDescription.Proofs.Definition.TextAndOctets
import ServiceDescription.Proofs.Rendering.Lossless

/-! The command does everything or nothing. If the file that is in effect holds a service
description, this is printed, and written where a file for it is in effect; otherwise nothing is
printed and no file is changed. What is in effect is what the variables say where they are set, and
what the flags say where they are not. -/
namespace ServiceDescription
open Xml

namespace Definition
variable {strict : Bool} {files : Files} {path : String} {d : Definition} {e : Error}

end Definition

namespace CommandLine
open Definition

/-- A variable counts whenever it is set, and the flag only where it is not. -/
inductive InEffect (env : Environment) (name : String) (flag : Option String) :
    Option String → Prop
  | ofVariable {value : String} (h : env name = some value) : InEffect env name flag (some value)
  | ofFlag (h : env name = none) : InEffect env name flag flag

lemma InEffect.eq {env : Environment} {name : String} {flag value : Option String}
    (h : InEffect env name flag value) : (env name).or flag = value := by
  cases h with
  | ofVariable h => rw [h, Option.some_or]
  | ofFlag h => rw [h, Option.none_or]

namespace Outcome

end Outcome

namespace Job
variable {j : Job} {files : Files}

end Job

section Run
variable {arguments : List String} {env : Environment} {s : Settings} {input : String}
  {json : Option String}

end Run

end CommandLine
end ServiceDescription
