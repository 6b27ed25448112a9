import ReplayFlow.Service.Host.Address
import ReplayFlow.Service.Host.Name

/-!
Hosts that a target may name: addresses of four numbers, addresses of eight
groups in brackets, and names. The service answers for every host, so that only
the form of one counts. In ASCII a name has no form to keep.
-/

namespace ReplayFlow.Service.Host

def isHost (text : List Char) : Bool :=
  if hasRuns 3 false text then isFourNumbers text
  else if text.head? = some '[' && text.length ≠ 1 && text.getLast? = some ']' then
    isGroupAddress text.tail.dropLast
  else text.all (·.toNat < 128) || isName text

end ReplayFlow.Service.Host
