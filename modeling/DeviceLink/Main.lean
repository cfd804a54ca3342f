import DeviceLink.Agent

/-!
# The command line

Looks at the environment and at the files that the agent needs, runs the agent, and writes its
lines.  This program opens no sockets, so its network is one without a way out.
-/

namespace DeviceLink.Main

/-- What a look at a path shows. -/
def look (path : String) : IO Config.FileStatus := do
  try
    return .present true (.ok (← IO.FS.readBinFile path).toList)
  catch
    | .noFileOrDirectory .. => return .absent
    | .inappropriateType .. => return .present false (.error "Is a directory (os error 21)")
    | e => return .present true (.error (toString e))

def known (seen : List (String × Config.FileStatus)) : Config.Files :=
  fun path => (seen.lookup path).getD .absent

def lookAt (paths : List String) : IO (List (String × Config.FileStatus)) :=
  paths.mapM fun path => return (path, ← look path)

def variableNames : List String :=
  [Config.variableName, Agent.filterVariable, "HUBPIPE_HOSTNAME", "HUBPIPE_DEVICE_ID",
    "HUBPIPE_SAS_TOKEN"]

/-- A network that no packet leaves. -/
def network : Network :=
  ⟨.io ⟨.other "NetworkUnreachable", "Network is unreachable (os error 101)"⟩⟩

end DeviceLink.Main

open DeviceLink DeviceLink.Main in
def main : IO UInt32 := do
  let values ← variableNames.mapM fun name => return (name, ← IO.getEnv name)
  let env (name : String) : Option String := (values.lookup name).join
  let first ← lookAt (Agent.firstFiles env)
  let more ← lookAt (Agent.namedFiles env (known first))
  let ending := Agent.run
    { env
      files := known (first ++ more)
      log := { journal := .error "No such file or directory (os error 2)" }
      network }
  for line in ending.lines do
    IO.println line.text
  return ending.code.toUInt32
