import Scratchpad.Pad
import Scratchpad.Proofs.Hosting
import Scratchpad.Proofs.Json.Reading
import Scratchpad.Proofs.Loading

/-!
# The catalog on its way to the pad

The list of entries that a server renders is read back by a client, entry by entry and character by
character, and fills the catalog of a pad that waits for it.
-/

namespace Scratchpad

namespace Entry

theorem readable_toJson (entries : List Entry) : Json.Readable 2 (.array (entries.map toJson)) := by
  refine .array fun x hx => ?_
  obtain ⟨e, _, rfl⟩ := List.mem_map.mp hx
  refine .object ?_ fun m hm => ?_
  · simp only [List.pairwise_cons, List.mem_singleton, forall_eq, List.not_mem_nil,
      false_implies, implies_true, List.Pairwise.nil, and_true]
    decide
  · simp only [List.mem_cons, List.not_mem_nil, or_false] at hm
    obtain rfl | rfl := hm
    · exact .string e.name
    · exact .string e.value

theorem ofDocument?_document_toJson (e : Entry) : ofDocument? e.toJson.document = some e := rfl

/-- The rendered list is read back. -/
theorem listOfBytes?_renderList (entries : List Entry) :
    listOfBytes? (Bytes.ofString (renderList entries)) = some entries := by
  rw [listOfBytes?, renderList, Json.Document.ofBytes?_compact (readable_toJson entries)]
  change (Json.itemDocuments (entries.map toJson)).mapM ofDocument? = some entries
  rw [Json.itemDocuments_eq_map, List.map_map]
  exact Json.mapM_map_eq_some fun e _ => ofDocument?_document_toJson e

end Entry

namespace Server
variable (e : Evaluator) (entries : List Entry) (site : Option Files.Path) (m : Machine)
  (fs : Files.System)

/-- What is served of a catalog. -/
theorem answer_examples {r : Http.Request} (hr : r.method = .get)
    (hp : route? (Http.Target.ofString r.target).path = some .examples) :
    (ofEntries e entries site).answer m fs r =
      (Http.Response.typed 200 "application/json"
        (Bytes.ofString (Entry.renderList entries))).withHeaders [anyOrigin] := by
  rw [answer_of_route m fs _ r hp (by simp [hr]) (by rw [hr]; rfl) (by simp [hr])]
  rfl

end Server

namespace Client
variable (c : Client) (net : Http.Network)

/-- A client that receives what is served of a catalog has the entries of that catalog, and so has
every pad that waits for them, with the first value as its text. -/
theorem fetchExamples_served (e : Evaluator) (entries : List Entry) (site : Option Files.Path)
    (m : Machine) (fs : Files.System) (r : Http.Request) (hr : r.method = .get)
    (hp : Server.route? (Http.Target.ofString r.target).path = some .examples)
    (hnet : net c.examplesRequest = .ok
      ⟨((Server.ofEntries e entries site).answer m fs r).status,
        .ok ((Server.ofEntries e entries site).answer m fs r).body⟩) :
    ((Server.ofEntries e entries site).answer m fs r).status = 200 ∧
      c.fetchExamples net = .ok entries ∧
      ∀ p : Pad, p.catalog.phase = .loading →
        let p' := (p.update (.catalogLoaded (c.fetchExamples net))).1
        p'.catalog.items = entries ∧
          p'.editor.text = (entries.head?.map (·.value)).getD p.editor.text := by
  have hs := Server.answer_examples e entries site m fs hr hp
  have hf : c.fetchExamples net = .ok entries := by
    rw [fetchExamples, hnet, hs]
    exact outcomeOf_of_success rfl (Entry.listOfBytes?_renderList entries)
  refine ⟨by rw [hs]; rfl, hf, fun p hload => ?_⟩
  rw [hf]
  refine ⟨?_, ?_⟩
  · rw [Pad.update_items, hload]
    rfl
  · rw [Pad.update_editor]
    dsimp only
    rw [Pad.chosen?_eq, if_pos hload]
    cases entries <;> rfl

/-- A name that comes twice, a value with quotes, a backslash and a line break, one with control
characters and one that is empty, fetched over a network that hosts the server. -/
theorem fetchExamples_served_of_hosting :
    let c : Client := ⟨.forServer "http://h", by decide⟩
    let m : Machine := ⟨fun _ _ => .error .nulInCommand⟩
    let entries : List Entry :=
      [⟨"a", "say \"\\\"\n"⟩, ⟨"a", "\x00\x1f\x7f"⟩, ⟨"", "é𝄞"⟩, ⟨"\\u0041", ""⟩]
    let s := Server.ofEntries (.ofCommand ["cat"]) entries none
    let fs : Files.System := ⟨.dir ⟨0o755, 0, none, none, 0, 0⟩ [], [], 0, 0o022⟩
    let net := Http.Network.hosting "http://h" (s.answer m fs)
    let r : Http.Request := ⟨.get, "/examples", [], []⟩
    let p := ((Pad.empty .latestIssued).update .catalogMounted).1
    let p' := (p.update (.catalogLoaded (c.fetchExamples net))).1
    r.method = .get ∧ Server.route? (Http.Target.ofString r.target).path = some .examples ∧
      net c.examplesRequest = .ok ⟨(s.answer m fs r).status, .ok (s.answer m fs r).body⟩ ∧
      c.fetchExamples net = .ok entries ∧
      p.catalog.phase = .loading ∧ p'.catalog.items = entries ∧
      p'.editor.text = "say \"\\\"\n" := by
  intro c m entries s fs net r p p'
  have hnet : net c.examplesRequest = .ok ⟨(s.answer m fs r).status, .ok (s.answer m fs r).body⟩ :=
    Http.Network.hosting_append "http://h" "/examples" (s.answer m fs) .get [] []
  have h := fetchExamples_served c net (.ofCommand ["cat"]) entries none m fs r rfl (by decide) hnet
  have hp := h.2.2 p rfl
  exact ⟨rfl, by decide, hnet, h.2.1, rfl, hp.1, hp.2⟩

end Client

end Scratchpad
