/-
# What goes out and comes back in an address

The address of the page to open holds five pairs, which are read back as they were written, whatever
characters the settings and the text that is sent along have. So nothing in them is taken for
another pair, or for the end of the query. And a redirect that carries a token, an instance and that
text is taken for what it carries, in whichever order and encoding they are written and whatever
else there is that is no error.

Key theorems: `SignIn.writesPairs_pageUrl`, `SignIn.ofRedirect_of_carries`,
`SignIn.carried_there_and_back`.
-/
import Soql.Proofs.SignIn.Redirect
import Soql.Proofs.Url.FormData
import Soql.Proofs.Url.Fragment

namespace Soql.SignIn

open FormData

/-- What the page is asked with. -/
def asked (o : Settings) (nonce : String) : List (String × String) :=
  [("client_id", o.clientId), ("redirect_uri", o.redirectUri), ("response_type", "token"),
    ("scope", o.scope), ("state", nonce)]

/-- The texts that the page is asked with are encoded, and the names need no encoding. -/
theorem writesPairs_pageUrl (o : Settings) (nonce : String) : ∃ q : String,
    o.pageUrl nonce = withoutTrailingSlashes o.loginUrl ++ "/services/oauth2/authorize?" ++ q ∧
      WritesPairs (asked o nonce) q.toList := by
  have hname : ∀ name ∈ ["client_id", "redirect_uri", "response_type", "scope", "state", "token"],
      Percent.encode name = name := by decide
  have hpair : ∀ {name value : String}, Percent.encode name = name →
      WritesPair (name, value) (name.toList ++ '=' :: (Percent.encode value).toList) := by
    intro name value hname
    have h := Percent.writes_encode name
    rw [hname] at h
    exact ⟨writes_of_percent h, writes_of_percent (Percent.writes_encode value)⟩
  simp only [List.forall_mem_cons] at hname
  obtain ⟨hclient, hredirect, hresponse, hscope, hstate, htoken, -⟩ := hname
  refine ⟨"client_id=" ++ (Percent.encode o.clientId ++ ("&redirect_uri=" ++
    (Percent.encode o.redirectUri ++ ("&response_type=token" ++ ("&scope=" ++
    (Percent.encode o.scope ++ ("&state=" ++ Percent.encode nonce))))))), ?_, ?_⟩
  · simp only [Settings.pageUrl, String.append_assoc]
  · have hpairs : WritesPairs (asked o nonce) _ := .cons (hpair hclient) (.cons (hpair hredirect)
      (.cons (hpair hresponse) (.cons (hpair hscope) (.single (hpair hstate)))))
    rw [htoken] at hpairs
    simpa using hpairs

/-- A token that is carried is granted, unless an error is told of or another text comes back. -/
theorem ofRedirect_of_carries {nonce url token u : String} {f : List Char}
    (h : Url.readFragment (Text.trim url.toList) = .ok f) (hne : token ≠ "")
    (htoken : Carries f "access_token" token) (hinstance : Carries f "instance_url" u)
    (hnonce : Carries f "state" nonce) (herror : Named.Absent (parse f) "error") :
    Grant.ofRedirect nonce url =
      .ok ⟨token, if u = "" then none else some (withoutTrailingSlashes u)⟩ := by
  rw [Grant.ofRedirect_eq h]
  refine Grant.ofPairs_eq_ok_iff.2
    ⟨herror, fun s hs => hs.unique hnonce.first, htoken.first, hne, fun v => ?_⟩
  constructor
  · intro hv
    split at hv
    · cases hv
    · rename_i hu
      exact ⟨u, hinstance.first, hu, (Option.some.inj hv).symm⟩
  · rintro ⟨u', hfirst, hu, rfl⟩
    obtain rfl := hfirst.unique hinstance.first
    exact if_neg hu

/-- The page is asked with the five pairs and nothing else. A redirect with a fragment of plain
characters that carries a token, an instance and the text that was sent along, in whichever order
and among whatever pairs that are no error, grants that token for that instance. -/
theorem carried_there_and_back (o : Settings) (nonce : String) :
    (∃ q : String,
      o.pageUrl nonce = withoutTrailingSlashes o.loginUrl ++ "/services/oauth2/authorize?" ++ q ∧
      (∀ c ∈ q.toList, IsPlain c ∨ c = '&' ∨ c = '=') ∧
      parse q.toList = asked o nonce) ∧
    ∀ (token u base f : String) (x : List Char), token ≠ "" → '#' ∉ base.toList →
      (∀ c ∈ f.toList, IsPlain c ∨ c = '&' ∨ c = '=') →
      Url.readFragment (Text.trim (base ++ "#" ++ f).toList) = .ok x →
      Carries f.toList "access_token" token → Carries f.toList "instance_url" u →
      Carries f.toList "state" nonce → Named.Absent (parse f.toList) "error" →
      Grant.ofRedirect nonce (base ++ "#" ++ f) =
        .ok ⟨token, if u = "" then none else some (withoutTrailingSlashes u)⟩ := by
  refine ⟨?_, ?_⟩
  · obtain ⟨q, hq, hpairs⟩ := writesPairs_pageUrl o nonce
    exact ⟨q, hq, hpairs.isPlain, hpairs.parse_eq⟩
  · intro token u base f x hne hbase hf hread htoken hinstance hnonce herror
    have hvisible : ∀ c ∈ f.toList, Url.IsVisible c := fun c hc => by
      rcases hf c hc with hc | rfl | rfl
      · exact hc.bounds.1
      · exact ⟨by decide, by decide⟩
      · exact ⟨by decide, by decide⟩
    have hfragment : x = f.toList := Url.readFragment_eq hbase hvisible (by simpa using hread)
    rw [hfragment] at hread
    exact ofRedirect_of_carries hread hne htoken hinstance hnonce herror

/-- The text that was sent along has a blank, which comes back as a plus sign. -/
theorem carried_there_and_back_blank :
    Grant.ofRedirect "x y"
      ("app:" ++ "#" ++ "state=x+y&id=&access_token=%C3%A9&instance_url=c%2F") =
        .ok ⟨"é", some "c"⟩ := by
  obtain ⟨-, hback⟩ := carried_there_and_back Settings.default "x y"
  have hpair (name value : String) :
      WritesPair (name, value) (encode name ++ '=' :: encode value) :=
    ⟨writes_encode name, writes_encode value⟩
  have hpairs : WritesPairs
      [("state", "x y"), ("id", ""), ("access_token", "é"), ("instance_url", "c/")]
      "state=x+y&id=&access_token=%C3%A9&instance_url=c%2F".toList :=
    .cons (hpair "state" "x y") (.cons (hpair "id" "") (.cons (hpair "access_token" "é")
      (.single (hpair "instance_url" "c/"))))
  have hstate := hpairs.carries (Named.get?_eq_some_iff.1 (rfl : Named.get? "state" _ = _))
  have htoken := hpairs.carries (Named.get?_eq_some_iff.1 (rfl : Named.get? "access_token" _ = _))
  have hinstance :=
    hpairs.carries (Named.get?_eq_some_iff.1 (rfl : Named.get? "instance_url" _ = _))
  have hread : Url.readFragment (Text.trim ("app:" ++ "#" ++
      "state=x+y&id=&access_token=%C3%A9&instance_url=c%2F").toList) =
    .ok "state=x+y&id=&access_token=%C3%A9&instance_url=c%2F".toList := rfl
  have hslash : withoutTrailingSlashes "c/" = "c" := rfl
  rw [hback "é" "c/" "app:" _ _ (by decide) (by decide) hpairs.isPlain hread htoken hinstance hstate
    (by rw [hpairs.parse_eq]; decide), if_neg (by decide), hslash]

end Soql.SignIn
