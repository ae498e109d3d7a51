import Dialogue.Script.Basic
/-!
# Loading content

The script that loads content into the main frame of a session.  Its options:

* `source_type`: `"url"`, with the address at `url`, or `"html"`, with the document at `html`;
* `cookie`: an object that is set as a cookie before loading;
* `wait_for`: an expression that is awaited after loading.
-/

namespace Dialogue.Protocol

/-- An option that is an object; an absent option and null are the empty one. -/
def objectOption (state : State) (key : String) : Except ScriptError (Table Json) :=
  match state.get? key with
  | none => .ok .empty
  | some .null => .ok .empty
  | some (.obj members) => .ok members
  | some other => .error (.invalidOption key other)

/-- A check that fails on an error response, and on a result that has the member `field`; the value
of that member is then given as the reason, under `label`. -/
def rejectField (field label : String) : ResponseCheck := fun _ message =>
  match message.error? with
  | some error => .error (.response error)
  | none =>
      match message.result?.bind (·.field? field) with
      | some value => .error (.custom (.object [(label, value)]))
      | none => .ok ()

def navigate : Script where
  name := "navigate"
  elements :=
    [.ifOption "cookie" none,
      .call "set_cookie"
        { method := "Network.setCookie", params := .computed (objectOption · "cookie") },
      .awaitResponse "cookie_set" {},
      .endIf,
      .ifOption "source_type" (some [.str "url"]),
      .call "navigate" { method := "Page.navigate", params := .keys [.bare "url"] },
      .awaitResponse "navigated"
        { check := rejectField "errorText" "navigation_failed", extract := [.bare "frameId"] },
      .awaitNotification "frame_stopped_loading"
        { method := "Page.frameStoppedLoading", matchOn := [.bare "frameId"] },
      .endIf,
      .ifOption "source_type" (some [.str "html"]),
      .call "get_frame_tree" { method := "Page.getFrameTree" },
      .awaitResponse "frame_tree"
        { extract := [.mapped "frameId" ["frameTree", "frame", "id"]] },
      .call "set_content"
        { method := "Page.setDocumentContent", params := .keys [.bare "frameId", .bare "html"] },
      .awaitResponse "content_set" {},
      .awaitNotification "load_event_fired" { method := "Page.loadEventFired" },
      .endIf,
      .ifOption "wait_for" none,
      .call "wait_for"
        { method := "Runtime.evaluate"
          params := .keys [.mapped "expression" ["wait_for"]]
          defaults := .ofList [("awaitPromise", .bool true), ("returnByValue", .bool true)] },
      .awaitResponse "waited" { check := rejectField "exceptionDetails" "wait_for_failed" },
      .endIf]

end Dialogue.Protocol
