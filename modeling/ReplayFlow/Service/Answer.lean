import ReplayFlow.Service.Operation
import ReplayFlow.Service.Route

/-!
Answers of the service. A request is answered where it leads.
-/

namespace ReplayFlow.Service

/-- Answers a request in an environment, on a file tree, from the directory `here`. -/
def answer (environment : Environment) (today : String) (here : List String) (t : FileTree)
    (r : Request) : FileTree × Run Reply :=
  match endpointOf r with
  | .error fault => (t, .fail fault)
  | .ok none => (t, pure ((Reply.notFound "Not Found").shownTo r.method))
  | .ok (some endpoint) => endpoint.answer environment today here t r.method r.body

end ReplayFlow.Service
