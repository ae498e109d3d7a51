import Dialogue.Protocol.Navigate
import Dialogue.Text.Utf8
/-!
# Capturing content

The scripts that load content and then print it or take a screenshot of it.  Both take the options
of `navigate` and an option of their own name with parameters for the capture, and both return the
captured data as base64 text, which `capturedBytes` decodes.
-/

namespace Dialogue.Protocol

/-- The parameters of printing: those of the option `print_to_pdf`, and landscape format if the
option `landscape` is true. -/
def printParams (state : State) : Except ScriptError (Table Json) := do
  let params ← objectOption state "print_to_pdf"
  match state.get? "landscape" with
  | some (.bool true) => return params.insert "landscape" (.bool true)
  | _ => return params

def printToPdf : Script where
  name := "print_to_pdf"
  elements :=
    [navigate.spliced,
      .call "print_to_pdf"
        { method := "Page.printToPDF"
          params := .computed printParams
          defaults := .ofList [("printBackground", .bool true)] },
      .awaitResponse "printed" { extract := [.bare "data"] },
      .outputOne "data"]

def captureScreenshot : Script where
  name := "capture_screenshot"
  elements :=
    [navigate.spliced,
      .call "capture_screenshot"
        { method := "Page.captureScreenshot"
          params := .computed (objectOption · "capture_screenshot")
          defaults := .ofList [("format", .str "png")] },
      .awaitResponse "captured" { extract := [.bare "data"] },
      .outputOne "data"]

/-- The bytes of a captured output. -/
def capturedBytes (output : Json) : Except ScriptError (List UInt8) :=
  match output with
  | .str text =>
      match Base64.decode (Text.utf8 text) with
      | .ok bytes => .ok bytes
      | .error reason => .error (.invalidMessage (.notBase64 reason))
  | other => .error (.invalidMessage (.notText other))

end Dialogue.Protocol
