/-!
# Faults

A fault is a failure as the program reports it: its class and its message. Each
part of the library states its own causes as an inductive type and turns them
into faults only where they leave it; the class names are the program's
vocabulary for kinds of failure.
-/

namespace Conveyor

set_option autoImplicit false

/-- The class of a reported failure. -/
inductive FaultKind where
  | typeError
  | valueError
  | keyError
  | indexError
  | runtimeError
  | osError
  | permissionError
  | fileNotFound
  | fileExists
  | notADirectory
  | isADirectory
  | overflow
  | attributeError
  | recursionError
  | actionFailure
  | stageFailure
  | trackFailure
  | trackCancelled
  | nodeUnavailable
  | orchestratorFailure
  deriving DecidableEq, Repr, Inhabited

def FaultKind.name : FaultKind → String
  | .typeError => "TypeError"
  | .valueError => "ValueError"
  | .keyError => "KeyError"
  | .indexError => "IndexError"
  | .runtimeError => "RuntimeError"
  | .osError => "OSError"
  | .permissionError => "PermissionError"
  | .fileNotFound => "FileNotFoundError"
  | .fileExists => "FileExistsError"
  | .notADirectory => "NotADirectoryError"
  | .isADirectory => "IsADirectoryError"
  | .overflow => "OverflowError"
  | .attributeError => "AttributeError"
  | .recursionError => "RecursionError"
  | .actionFailure => "ActionFailure"
  | .stageFailure => "StageFailure"
  | .trackFailure => "TrackFailure"
  | .trackCancelled => "TrackCancelled"
  | .nodeUnavailable => "NodeUnavailable"
  | .orchestratorFailure => "OrchestratorFailure"

def FaultKind.ofName? (name : String) : Option FaultKind :=
  [FaultKind.typeError, .valueError, .keyError, .indexError, .runtimeError, .osError, .permissionError,
    .fileNotFound, .fileExists, .notADirectory, .isADirectory, .overflow, .attributeError, .actionFailure,
    .stageFailure, .trackFailure, .trackCancelled, .nodeUnavailable,
    .orchestratorFailure].find? (·.name == name)

/-- A reported failure: its class and its message. -/
structure Fault where
  kind : FaultKind
  message : String
  deriving Inhabited

def Fault.type (message : String) : Fault := ⟨.typeError, message⟩

def Fault.value (message : String) : Fault := ⟨.valueError, message⟩

end Conveyor
