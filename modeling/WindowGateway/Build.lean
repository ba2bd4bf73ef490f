import WindowGateway.CommandLine.Help

/-! What a build of the program generates: bindings of the remote service and the manual page. -/

namespace WindowGateway.Build

/-- What a build prints: which files it depends on. -/
def printed : String := "cargo::rerun-if-changed=cli-defs\ncargo::rerun-if-changed=build.rs\n"

def servicePackage : String := "org.springframework.cloud.function.grpc"

/-- The name of the package, if a build does not give one. -/
def defaultPackage : String := "udf-gateway"

/-- A generated file. The text of bindings is left to the generator. -/
structure File where
  name : String
  text : Option String
  deriving DecidableEq, Repr

/-- The files of a build of a package, in the order of their names, if there is a directory for
them. -/
def files (hasDirectory : Bool) (package : Option String) : List File :=
  if hasDirectory then
    [⟨servicePackage ++ ".MessagingService.rs", none⟩,
      ⟨package.getD defaultPackage ++ ".1", some CommandLine.manualPage⟩].mergeSort
      fun a b => a.name ≤ b.name
  else []

end WindowGateway.Build
