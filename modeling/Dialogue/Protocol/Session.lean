import Dialogue.Script.Basic
/-!
# Sessions of targets

The scripts that open a blank target and attach to it, that make a session blank again, and that
close a target.  Opening returns the ids of the target and of the session.  From the moment at which
the session is attached its id is in the state, so the calls after that are scoped to it.
-/

namespace Dialogue.Protocol

def spawnSession : Script where
  name := "spawn_session"
  elements :=
    [.call "create_target"
        { method := "Target.createTarget", defaults := .ofList [("url", .str "about:blank")] },
      .awaitResponse "target_created" { extract := [.bare "targetId"] },
      .call "attach_to_target"
        { method := "Target.attachToTarget"
          params := .keys [.bare "targetId"]
          defaults := .ofList [("flatten", .bool true)] },
      .awaitResponse "attached" { extract := [.bare "sessionId"] },
      .call "enable_page" { method := "Page.enable" },
      .awaitResponse "page_enabled" {},
      .call "enable_runtime" { method := "Runtime.enable" },
      .awaitResponse "runtime_enabled" {},
      .ifOption "offline" none,
      .call "emulate_offline"
        { method := "Network.emulateNetworkConditions"
          defaults := .ofList
            [("offline", .bool true), ("latency", .word 0), ("downloadThroughput", .word 0),
              ("uploadThroughput", .word 0)] },
      .awaitResponse "offline_emulated" {},
      .endIf,
      .outputMany ["targetId", "sessionId"]]

def resetSession : Script where
  name := "reset_session"
  elements :=
    [.call "blank"
        { method := "Page.navigate", defaults := .ofList [("url", .str "about:blank")] },
      .awaitResponse "blanked" { extract := [.bare "frameId"] },
      .awaitNotification "blank_loaded"
        { method := "Page.frameStoppedLoading", matchOn := [.bare "frameId"] },
      .outputOne "frameId"]

def closeSession : Script where
  name := "close_session"
  elements :=
    [.call "close_target" { method := "Target.closeTarget", params := .keys [.bare "targetId"] },
      .awaitResponse "target_closed" { extract := [.bare "success"] },
      .outputOne "success"]

end Dialogue.Protocol
