import Mathlib.Data.List.Basic
import Scratchpad.Client
import Scratchpad.Server

/-!
# Clients and their server

A client whose network hosts a server gets the server's response to its request, status and body as
they are. The outcome of the request is what the body of a success is read as.
-/

namespace Scratchpad

namespace Http.Network

theorem hosting_append (root path : String) (serve : Request → Response) (method : Method)
    (headers : List Header) (body : Bytes) :
    hosting root serve ⟨method, root ++ path, headers, body⟩ =
      .ok ⟨(serve ⟨method, path, headers, body⟩).status,
        .ok (serve ⟨method, path, headers, body⟩).body⟩ := by
  have hp : root.toList.isPrefixOf? (root ++ path).toList = some path.toList :=
    List.isPrefixOf?_eq_some_iff_append_eq.mpr String.toList_append.symm
  simp only [hosting, hp, String.ofList_toList]

end Http.Network

namespace Client
variable {α : Type} {read : Bytes → Option α}

theorem outcomeOf_of_success {status : Nat} {body : Bytes} {a : α}
    (hs : Http.isSuccess status = true) (hr : read body = some a) :
    outcomeOf read (.ok ⟨status, .ok body⟩) = .ok a := by
  simp only [outcomeOf, hs, if_true, hr]

theorem outcomeOf_of_not_success {status : Nat} {body : Except String Bytes}
    (hs : Http.isSuccess status = false) :
    outcomeOf read (.ok ⟨status, body⟩) = .error (.status status) := by
  simp only [outcomeOf, hs, Bool.false_eq_true, if_false]

end Client

namespace Server
variable (m : Machine) (fs : Files.System) (s : Server) (r : Http.Request)

/-- What a route serves, in answer to a method that it allows and that is not `HEAD`. -/
theorem answer_of_route {route : Route}
    (hp : route? (Http.Target.ofString r.target).path = some route)
    (ho : r.method ≠ .options) (ha : route.allows r.method = true) (hh : r.method ≠ .head) :
    s.answer m fs r = (s.serve m r route).withHeaders [anyOrigin] := by
  simp only [answer, hp, answerAt, ho, ha, hh, if_true, if_false]

end Server
end Scratchpad
