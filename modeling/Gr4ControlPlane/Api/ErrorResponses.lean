import Gr4ControlPlane.Api.WebSocketTarget
import Gr4ControlPlane.App.SessionService
import Gr4ControlPlane.Domain.Json

namespace Gr4ControlPlane

structure ErrorDetails where
  status : Nat
  code : Bytes
  message : Bytes
  deriving DecidableEq

structure HttpResponse where
  status : Nat
  contentType : Bytes
  body : Bytes
  deriving DecidableEq

def currentErrorDetails : Raised → ErrorDetails
  | .app (.validation what) => ⟨400, ascii "validation_error", cString what⟩
  | .app (.notFound what) => ⟨404, ascii "not_found", cString what⟩
  | .app (.invalidState what) => ⟨409, ascii "invalid_state", cString what⟩
  | .app (.runtime what) => ⟨500, ascii "runtime_error", cString what⟩
  | .timeout what => ⟨504, ascii "timeout", cString what⟩
  | .schedulerCatalogLoad what => ⟨500, ascii "scheduler_catalog_error", cString what⟩
  | .catalogLoad what => ⟨500, ascii "catalog_error", cString what⟩
  | .app (.stdException _) | .unknown => ⟨500, ascii "internal_error", ascii "internal server error"⟩

def errorBody (code message : Bytes) : Json :=
  .object [(ascii "error", .object [(ascii "code", .string code), (ascii "message", .string message)])]

def internalError : Json := errorBody (ascii "internal_error") (ascii "internal server error")

variable (dump : Json → Except Bytes Bytes)

def setJsonResponse (body : Json) (status : Nat) : Except Bytes HttpResponse := do
  return ⟨status, ascii "application/json", ← dump body⟩

def setErrorResponse (status : Nat) (code message : Bytes) : Except Bytes HttpResponse :=
  setJsonResponse dump (errorBody code message) status

def handleException (raised : Raised) : Except Bytes HttpResponse :=
  let details := currentErrorDetails raised
  setErrorResponse dump details.status details.code details.message

def execute (action : Except Raised HttpResponse) : Except Bytes HttpResponse :=
  match action with
  | .ok response => .ok response
  | .error raised => handleException dump raised

def writeJsonError (details : ErrorDetails) : Except Bytes HttpResponse := do
  return ⟨details.status, ascii "application/json", ← dump (errorBody details.code details.message)⟩

def raiseStd {α : Type} : Except Bytes α → Except Raised α :=
  Except.mapError fun what => .app (.stdException what)

/-- `BlockCatalogService::get` and `SchedulerCatalogService::get`, once the catalog is loaded. -/
def catalogGet {α : Type} (kind : Bytes) (catalog : Bytes → Option α) (id : Bytes) : Except Raised α :=
  match catalog id with
  | some descriptor => .ok descriptor
  | none => .error (.app (.notFound (kind ++ ascii " not found: " ++ id)))

/-- The action of `GET /blocks/(.+)` and `GET /schedulers/(.+)` for the text matched. -/
def catalogRoute {α : Type} (kind : Bytes) (catalog : Bytes → Option α) (toJson : α → Json) (encoded : Bytes) :
    Except Raised HttpResponse := do
  let id ← raiseStd (decodePercentEncoded encoded)
  let descriptor ← catalogGet kind catalog id
  raiseStd (setJsonResponse dump (toJson descriptor) 200)

def Raised.applicationText : Raised → Option Bytes
  | .app (.validation what) | .app (.notFound what) | .app (.invalidState what) | .app (.runtime what)
  | .timeout what => some what
  | _ => none

structure ErrorDetails.ReportedBy (details : ErrorDetails) (response : HttpResponse) : Prop where
  status : response.status = details.status
  contentType : response.contentType = ascii "application/json"
  body : dump (errorBody details.code details.message) = .ok response.body

variable {dump} {raised : Raised} {what : Bytes}

theorem message_of_application (h : raised.applicationText = some what) :
    (currentErrorDetails raised).message = cString what := by
  unfold Raised.applicationText at h
  split at h <;> cases h <;> rfl

theorem validUtf8_code (raised : Raised) : validUtf8 (currentErrorDetails raised).code = true := by
  unfold currentErrorDetails
  split <;> (dsimp only; decide)

theorem printable_errorBody {code message : Bytes} (h : validUtf8 code = true) :
    (errorBody code message).printable = validUtf8 message := by
  have hkeys : validUtf8 (ascii "error") = true ∧ validUtf8 (ascii "code") = true ∧
      validUtf8 (ascii "message") = true := by decide
  simp [errorBody, Json.printable, Json.printableMembers, h, hkeys]

theorem writeJsonError_iff (details : ErrorDetails) :
    (∃ response, writeJsonError dump details = .ok response ∧ details.ReportedBy dump response) ↔
      (dump (errorBody details.code details.message)).isOk := by
  unfold writeJsonError
  cases hdump : dump (errorBody details.code details.message) with
  | error what =>
    refine iff_of_false ?_ nofun
    rintro ⟨response, h, -⟩
    cases h
  | ok body => exact iff_of_true ⟨_, rfl, ⟨rfl, rfl, hdump⟩⟩ rfl

theorem execute_raised (raised : Raised) :
    execute dump (.error raised) = writeJsonError dump (currentErrorDetails raised) := rfl

/-- An exception of the application's own is reported, by either handler, exactly if its text is UTF-8
up to the first NUL. -/
theorem application_error_reported (strict : Json.StrictDump dump) (h : raised.applicationText = some what) :
    ((∃ response, execute dump (.error raised) = .ok response ∧
          (currentErrorDetails raised).ReportedBy dump response) ∧
        ∃ response, writeJsonError dump (currentErrorDetails raised) = .ok response ∧
          (currentErrorDetails raised).ReportedBy dump response) ↔
      validUtf8 (cString what) = true := by
  rw [execute_raised, and_self, writeJsonError_iff, strict, printable_errorBody (validUtf8_code raised),
    message_of_application h]

theorem application_error_reported_missing :
    (∃ response, execute (Json.dump fun _ => []) (.error (.app (.notFound (ascii "session not found: sess_7")))) =
          .ok response ∧
        (currentErrorDetails (.app (.notFound (ascii "session not found: sess_7")))).ReportedBy
          (Json.dump fun _ => []) response) ∧
      ∃ response, writeJsonError (Json.dump fun _ => [])
            (currentErrorDetails (.app (.notFound (ascii "session not found: sess_7")))) = .ok response ∧
          (currentErrorDetails (.app (.notFound (ascii "session not found: sess_7")))).ReportedBy
            (Json.dump fun _ => []) response :=
  (application_error_reported (Json.strictDump_dump _) rfl).mpr (by decide)

section

variable {kind id : Bytes}

theorem cString_notFound (whole : 0 ∉ kind) :
    cString (kind ++ ascii " not found: " ++ id) = kind ++ ascii " not found: " ++ cString id := by
  rw [List.append_assoc, cString_append whole, cString_append (by decide +kernel), List.append_assoc]

theorem printable_notFound (plain : ∀ byte ∈ kind, byte ≤ 0x7f) :
    (errorBody (ascii "not_found") (kind ++ ascii " not found: " ++ cString id)).printable = validUtf8 (cString id) := by
  rw [printable_errorBody (by decide), List.append_assoc, validUtf8_append plain]
  exact validUtf8_append (by decide +kernel) (cString id)

/-- A request for a block or scheduler that does not exist is answered exactly if the id in its
path decodes to UTF-8, up to a NUL. -/
theorem catalogRoute_missing {α : Type} {encoded : Bytes} {catalog : Bytes → Option α} {toJson : α → Json}
    (strict : Json.StrictDump dump) (plain : ∀ byte ∈ kind, byte ≤ 0x7f) (whole : 0 ∉ kind)
    (decodes : decodePercentEncoded encoded = .ok id) (missing : catalog id = none) :
    (∃ response, execute dump (catalogRoute dump kind catalog toJson encoded) = .ok response ∧ response.status = 404) ↔
      validUtf8 (cString id) = true := by
  have raises : catalogRoute dump kind catalog toJson encoded =
      .error (.app (.notFound (kind ++ ascii " not found: " ++ id))) := by
    simp [catalogRoute, catalogGet, decodes, missing, raiseStd, Except.mapError, bind, Except.bind]
  rw [raises, execute_raised, ← printable_notFound plain, ← strict]
  unfold writeJsonError currentErrorDetails
  dsimp only
  rw [cString_notFound whole]
  cases dump (errorBody (ascii "not_found") (kind ++ ascii " not found: " ++ cString id)) with
  | error what => exact iff_of_false (fun ⟨_, h, _⟩ => by cases h) nofun
  | ok body => exact iff_of_true ⟨_, rfl, rfl⟩ rfl

end

theorem application_error_unreported :
    ¬ ∀ (dump : Json → Except Bytes Bytes), Json.StrictDump dump → ∀ (raised : Raised) (what : Bytes),
      raised.applicationText = some what →
        ∃ response, execute dump (.error raised) = .ok response ∧ (currentErrorDetails raised).ReportedBy dump response := by
  intro reported
  have raises : catalogRoute (Json.dump fun _ => []) (ascii "block") (fun _ => (none : Option Unit)) (fun _ => .null)
      (ascii "%ff") = .error (.app (.notFound (ascii "block not found: " ++ [0xff]))) := by decide +kernel
  obtain ⟨response, h, -⟩ := reported _ (Json.strictDump_dump fun _ => []) _ _
    (show Raised.applicationText (.app (.notFound (ascii "block not found: " ++ [0xff]))) = some _ from rfl)
  rw [← raises] at h
  have throws : execute (Json.dump fun _ => []) (catalogRoute (Json.dump fun _ => []) (ascii "block")
      (fun _ => (none : Option Unit)) (fun _ => .null) (ascii "%ff")) =
      .error (ascii "[json.exception.type_error.316] invalid UTF-8 byte") := by decide +kernel
  rw [throws] at h
  cases h

end Gr4ControlPlane
