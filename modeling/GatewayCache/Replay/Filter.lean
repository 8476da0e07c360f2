import GatewayCache.Replay.Directive

/-!
Which records are shown. A setting lists directives with commas between them, and of those that
apply to a record the most specific one decides.
-/
namespace GatewayCache.Log

/-- What decides which records are shown. -/
structure Filter where
  directives : List Directive
deriving DecidableEq

namespace Filter

/-- What is shown unless it is asked otherwise. -/
def standard : Filter := ⟨[{ target := program, verbosity := ⟨Level.info.rank⟩ }]⟩

/-- What is shown when nothing is asked for: errors. -/
def least : Filter := ⟨[{ verbosity := ⟨Level.error.rank⟩ }]⟩

/--
Reads a setting. One that is malformed is none at all, but one that cuts characters apart leaves no
filter to go on with.
-/
def ofSetting? (setting : Option String) : Option Filter :=
  match setting with
  | none => some standard
  | some text =>
    match ((text.splitOn ",").filter (!·.isEmpty)).mapM Directive.ofText with
    | .ok [] => some least
    | .ok directives => some ⟨directives⟩
    | .error .malformed => some standard
    | .error .misaligned => none

/-- The most specific directive that applies to a record; of equal ones, the last. -/
def directiveFor? (f : Filter) (r : Record) : Option Directive :=
  (f.directives.filter (·.appliesTo r)).foldl
    (fun best? d => if best?.any (·.isAbove d) then best? else some d) none

def shows (f : Filter) (r : Record) : Bool := (f.directiveFor? r).any (·.verbosity.shows r)

end Filter

end GatewayCache.Log
