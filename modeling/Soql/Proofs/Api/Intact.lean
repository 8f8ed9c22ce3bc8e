/-
# The query in the address

A query is sent at the end of an address, written byte by byte in letters, digits, four marks and
escapes. So whatever the query says, the address goes no further than to that query, and whoever
decodes what is written gets the query that was asked. Two queries have two addresses, and slashes
at the end of an instance make no difference.

Key theorems: `Api.queryUrl_inj`, `Api.queryUrl_eq_of_sameButSlashes`, `Operation.sent_intact`.
-/
import Soql.Proofs.Api.Gate
import Soql.Proofs.Url.FormData

namespace Soql

namespace Api

variable {version url url' query query' : String}

theorem queryUrl_inj :
    queryUrl version url query = queryUrl version url query' ↔ query = query' := by
  constructor
  · intro h
    have hencode : Percent.encode query = Percent.encode query' :=
      (String.append_right_inj _).1 h
    have hwrites := Percent.writes_encode query
    rw [hencode] at hwrites
    exact hwrites.unique (Percent.writes_encode query')
  · rintro rfl
    rfl

theorem queryUrl_eq_of_sameButSlashes (h : SameButSlashes url url') :
    queryUrl version url query = queryUrl version url' query := by
  rw [queryUrl, queryUrl, h.eq]

end Api

namespace Operation

/-- An operation that is about a query sends it, when a token can be obtained, with the query
written at the end of the address of the instance. No sign that parts an address is written, and
percent decoding and form decoding both give the query back. No other query has that address, and
an instance has the same one with more slashes at its end or with fewer. -/
theorem sent_intact {v : Service} {w : Outside} {s : Session} {op : Operation} {query : String}
    {t : Token} (hquery : op.query? = some query) (ht : v.executor.Obtains w s t) :
    ∃ e : String,
      let url := withoutTrailingSlashes t.instanceUrl ++ "/services/data/" ++ v.executor.version ++
        "/query?q=" ++ e
      (op.apply v w s).calls = s.calls ++ [⟨url, t.access⟩] ∧
      (∀ q, op = .executeSpec q → query = q.compile) ∧
      (Percent.Writes query e.toList ∧
        ∀ c ∈ e.toList, Percent.IsPlain c ∧ c ∉ ['#', '&', '*', '+', '/', '=', '?']) ∧
      Utf8.decode? (Percent.decodeBytes (Utf8.encode e.toList)) = some query.toList ∧
      FormData.decodePart e.toList = query ∧
      FormData.parse ("q=" ++ e).toList = [("q", query)] ∧
      (∀ query', Api.queryUrl v.executor.version t.instanceUrl query' = url → query' = query) ∧
      ∀ instanceUrl, SameButSlashes instanceUrl t.instanceUrl →
        Api.queryUrl v.executor.version instanceUrl query = url := by
  refine ⟨Percent.encode query, ?_⟩
  intro url
  have hurl : Api.queryUrl v.executor.version t.instanceUrl query = url := rfl
  have hwrites := Percent.writes_encode query
  have hform := FormData.writes_of_percent hwrites
  have hq : FormData.WritesPair ("q", query) ('q' :: '=' :: (Percent.encode query).toList) :=
    .mk (FormData.writes_encode "q") hform
  refine ⟨?_, fun q hop => ?_, ⟨hwrites, fun c hc => ?_⟩, ?_, hform.decodePart_eq, ?_,
    fun query' h => ?_, fun instanceUrl h => ?_⟩
  · rcases v.executor.execute_cases query w s with
      ⟨t', s', ht', hrun, hcalls, -⟩ | ⟨e, s', hnone, -⟩
    · obtain rfl := ht.unique ht'
      rw [apply_of_query? hquery, hrun]
      exact hcalls
    · exact absurd ht (hnone t)
  · subst hop
    exact (Option.some.inj hquery).symm
  · exact ⟨hwrites.isPlain c hc, (hwrites.isPlain c hc).bounds.2⟩
  · rw [hwrites.decodeBytes_eq, Utf8.decode?_encode]
  · rw [String.toList_append]
    exact (FormData.WritesPairs.single hq).parse_eq
  · exact Api.queryUrl_inj.1 (h.trans hurl.symm)
  · exact (Api.queryUrl_eq_of_sameButSlashes h).trans hurl

/-- The query has signs that part an address, and the instance a slash at its end. -/
theorem sent_intact_ampersand :
    let o := SignIn.Settings.default
    let v : Service := ⟨o, .default o⟩
    let w : Outside := ⟨0, "n", fun _ _ => .cancelled, fun _ _ => .error .timeout⟩
    let s : Session := .openOn ⟨.ofEntries [], some ⟨"t", 0, "a.b/"⟩, "a.b/"⟩
    (Operation.apply v w (.execute "A & B#") s).calls =
      [⟨"a.b/services/data/v57.0/query?q=A%20%26%20B%23", "t"⟩] := by
  intro o v w s
  have ht : v.executor.Obtains w s ⟨"t", 0, "a.b/"⟩ := .inl (by decide)
  obtain ⟨e, hcalls, -, -, -, -, -, -, hslash⟩ := @sent_intact v w s (.execute "A & B#") _ _ rfl ht
  have hsame : SameButSlashes "a.b" "a.b/" := ⟨"a.b".toList, 0, 1, rfl, rfl⟩
  have hurl : Api.queryUrl "v57.0" "a.b" "A & B#" =
    "a.b/services/data/v57.0/query?q=A%20%26%20B%23" := by decide
  rw [hcalls, ← hslash _ hsame]
  exact congrArg (fun url => [Api.Call.mk url "t"]) hurl

end Operation

end Soql
