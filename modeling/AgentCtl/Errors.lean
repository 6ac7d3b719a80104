import AgentCtl.Python.Str

set_option relaxedAutoImplicit false
set_option autoImplicit false

/-!
# Exceptions

The exception classes of `errors.py`, and the built-in ones that the modelled functions raise or
let through. An exception is its class, its text (`str(exc)`) and the HTTP status an SDK exception
carries.

## Main definitions

* `AgentCtl.ExcClass`, `AgentCtl.Exc` — exception classes and exceptions.
* `AgentCtl.Exc.isTerminal`, `isRetriable`, `isGateway`, `isTyped` — the `isinstance` tests of the
  handlers.
-/

namespace AgentCtl

/-- Exception classes: the gateway's own tree, then built-in ones. -/
inductive ExcClass where
  | gatewayError
  | retriableError
  | deadlineExceeded
  | terminalError
  | allTargetsFailed
  | budgetExceeded
  | unknownPriceError
  | timeoutError
  | keyError
  | typeError
  | attributeError
  | valueError
  | jsonDecodeError
  | unicodeEncodeError
  | generatorExit
  /-- Any other subclass of `Exception`. -/
  | other (name : Str)
  deriving DecidableEq

/-- An exception: its class, `str(exc)`, and `exc.status_code` where there is one. -/
structure Exc where
  cls : ExcClass
  msg : Str
  statusCode : Option ℤ := none
  deriving DecidableEq

namespace Exc

/-- `isinstance(exc, TerminalError)`. -/
def isTerminal (e : Exc) : Bool :=
  match e.cls with
  | .terminalError | .unknownPriceError => true
  | _ => false

/-- `isinstance(exc, RetriableError)`. -/
def isRetriable (e : Exc) : Bool :=
  match e.cls with
  | .retriableError | .deadlineExceeded => true
  | _ => false

/-- `isinstance(exc, TimeoutError)`. -/
def isTimeout (e : Exc) : Bool := e.cls = .timeoutError

/-- `isinstance(exc, DeadlineExceeded)`. -/
def isDeadline (e : Exc) : Bool := e.cls = .deadlineExceeded

/-- `isinstance(exc, GatewayError)`. -/
def isGateway (e : Exc) : Bool :=
  match e.cls with
  | .gatewayError | .retriableError | .deadlineExceeded | .terminalError | .allTargetsFailed
  | .budgetExceeded | .unknownPriceError => true
  | _ => false

/-- `isinstance(exc, Exception)`: everything but the `GeneratorExit` of a closed generator. -/
def isException (e : Exc) : Bool := e.cls ≠ .generatorExit

/-- The exceptions a provider raises by contract: `TerminalError`, `RetriableError`,
`TimeoutError`. -/
def isTyped (e : Exc) : Bool := e.isTerminal || e.isRetriable || e.isTimeout

/-- `TerminalError(msg)`. -/
def terminal (msg : Str) : Exc := ⟨.terminalError, msg, none⟩

/-- `RetriableError(msg)`. -/
def retriable (msg : Str) : Exc := ⟨.retriableError, msg, none⟩

/-- `GatewayError(msg)`. -/
def gateway (msg : Str) : Exc := ⟨.gatewayError, msg, none⟩

/-- `OverflowError(msg)`. -/
def overflow (msg : Str) : Exc := ⟨.other "OverflowError", msg, none⟩

/-- `GeneratorExit()`. -/
def generatorExit : Exc := ⟨.generatorExit, [], none⟩

@[simp] lemma isTerminal_retriable (msg : Str) : (retriable msg).isTerminal = false := rfl

@[simp] lemma isDeadline_retriable (msg : Str) : (retriable msg).isDeadline = false := rfl

@[simp] lemma isRetriable_retriable (msg : Str) : (retriable msg).isRetriable = true := rfl

/-- What no handler of the retry loop knows is none of the exceptions it tests for. -/
lemma of_not_isTyped {e : Exc} (h : e.isTyped = false) :
    e.isTerminal = false ∧ e.isRetriable = false ∧ e.isTimeout = false ∧ e.isDeadline = false := by
  rcases e with ⟨cls, msg, status⟩
  cases cls <;> simp_all [isTyped, isTerminal, isRetriable, isTimeout, isDeadline]

/-- What a provider raises by contract is an `Exception`. -/
lemma isException_of_isTyped {e : Exc} (h : e.isTyped = true) : e.isException = true := by
  rcases e with ⟨cls, msg, status⟩
  cases cls <;> simp_all [isTyped, isTerminal, isRetriable, isTimeout, isException]

end Exc

end AgentCtl
