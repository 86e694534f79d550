import ProcessControl.Failure
import ProcessControl.Text.Blank

namespace ProcessControl

-- A command must have a character that is not white space, and no NUL.
def validateCommand (command : String) : Except Failure Unit :=
  if command.toList.all Text.isBlank then .error (.invalidCommand "Command cannot be empty")
  else if command.toList.contains '\x00' then .error (.invalidCommand "Command contains a NUL byte")
  else .ok ()

def validateTarget (self pid : Pid) : Except Failure Unit :=
  if pid = 0 then .error (.invalidPid pid)
  else if pid = self then .error (.selfTermination pid)
  else .ok ()

end ProcessControl
