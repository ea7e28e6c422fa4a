import RunWatch.Artifact
import RunWatch.Proofs.Net.Path
import RunWatch.Proofs.Net.Url

/-!
# URLs of artifacts

The URL of an artifact is the one of the runtime with two more segments: `artifacts`, and the
identifier in percent encoding. This holds for an identifier that is no dots and has no line breaks
(`Path.IsSegment`), and for no other one (`ArtifactClient.urlFor_addresses_iff`): dots are left out,
line breaks are lost, and two dots with line breaks take `artifacts` away. No identifier changes
more than that.
-/

namespace RunWatch

open Text

namespace Url

/-- Whether the path of a URL is a given one with `artifacts` and one more segment behind it, which
is read back as an identifier. -/
def Addresses (v : Url) (path : List String) (id : String) : Prop :=
  ∃ s, v.path = path ++ ["artifacts", s] ∧ (∀ c ∈ s.toList, v.kind.startsPath c = false) ∧
    Percent.decode? s = some id

/-- Two URLs that differ in the last segment only are written differently. -/
theorem eq_of_text_eq {t : Url} {path : List String} {r s : String}
    (h : { t with path := path ++ [r] }.text = { t with path := path ++ [s] }.text) : r = s := by
  simp only [text, pathText, Path.text_append_singleton, ← String.toList_inj, String.toList_append,
    List.append_assoc, List.append_cancel_left_eq] at h
  exact String.toList_inj.1 (List.append_cancel_right h)

end Url

namespace ArtifactClient

theorem push_artifacts (k : SchemeKind) (path : List String) :
    Path.push k (Path.withoutEmptyEnd path) "artifacts" = Path.kept path ++ ["artifacts"] := by
  have hencode : Url.encodeWith (Url.segmentMarks k) "artifacts".toList = "artifacts" := by
    cases k <;> decide +kernel
  rw [Path.push_of_isSegment (by decide +kernel), hencode, Path.append_withoutEmptyEnd]

variable {c : ArtifactClient} {t : Url}

theorem urlFor_eq (ht : Url.parse c.base = .ok t) (id : String) :
    c.urlFor id =
      .ok { t with path := Path.push t.kind (Path.kept t.path ++ ["artifacts"]) id } := by
  rw [urlFor, ht]
  dsimp only
  rw [push_artifacts]

theorem artifacts_ne (path : List String) : path ++ ["artifacts"] ≠ [""] := fun h =>
  absurd (by simpa using congrArg List.getLast? h) (show "artifacts" ≠ "" by decide)

/-- An identifier becomes one segment that it is read back from if it is no dots and has no line
breaks, and only then. -/
theorem addresses_iff (t : Url) (id : String) :
    { t with path := Path.push t.kind (Path.kept t.path ++ ["artifacts"]) id }.Addresses
      (Path.kept t.path) id ↔ Path.IsSegment id := by
  rw [← Path.exists_push_eq_append_iff (artifacts_ne (Path.kept t.path))]
  refine exists_congr fun s => and_congr_left fun _ => ?_
  rw [List.append_assoc]
  exact Iff.rfl

/-- For every address of a runtime with a domain, without a query and a fragment, there is a URL for
each identifier, on the same host and below the path of the address without the slashes at its end.
It has exactly one more segment there that the identifier is read back from, if the identifier is no
dots and has no line breaks, and only then. No two such identifiers have the same URL. -/
theorem urlFor_addresses_iff {base : String} {u : Url} (hbase : Url.parse base = .ok u)
    (hkind : u.kind = .service) (hbare : u.IsBare) (retries : Nat) :
    ∃ t, Url.parse (trimEndSlashes base) = .ok t ∧
      (∀ id, ∃ v, (new base retries).urlFor id = .ok v ∧
        v.scheme = u.scheme ∧ v.authority = u.authority ∧ v.IsBare ∧
        Path.kept t.path <+: v.path ∧ (v.Addresses (Path.kept t.path) id ↔ Path.IsSegment id)) ∧
      ∀ id id' v v', Path.IsSegment id → Path.IsSegment id' →
        (new base retries).urlFor id = .ok v → (new base retries).urlFor id' = .ok v' →
        v.text = v'.text → id = id' := by
  obtain ⟨t, ht, hscheme, hauthority, htbare⟩ := Url.exists_parse_trimEndSlashes hbase hkind hbare
  have hurl : ∀ id, (new base retries).urlFor id =
      .ok { t with path := Path.push t.kind (Path.kept t.path ++ ["artifacts"]) id } := urlFor_eq ht
  refine ⟨t, ht, fun id => ⟨_, hurl id, hscheme, hauthority, htbare, ?_, addresses_iff t id⟩, ?_⟩
  · exact Path.isPrefix_push (by decide +kernel) (by decide) _ id
  · intro id id' v v' hid hid' hv hv' htext
    have hne := artifacts_ne (Path.kept t.path)
    obtain ⟨s, hs, -, hdecode⟩ := (Path.exists_push_eq_append_iff hne).2 hid
    obtain ⟨s', hs', -, hdecode'⟩ := (Path.exists_push_eq_append_iff hne).2 hid'
    rw [hurl, Except.ok.injEq, hs] at hv
    rw [hurl, Except.ok.injEq, hs'] at hv'
    rw [← hv, ← hv'] at htext
    -- Equal texts have the same last segment, from which both identifiers are read.
    rw [← Url.eq_of_text_eq htext, hdecode] at hdecode'
    exact Option.some.inj hdecode'

/-- An identifier that would leave the path of the runtime, if its slash counted. -/
theorem urlFor_addresses_iff_of_prefix :
    ∃ v, (new "http://runtime:9000/api/" 2).urlFor "../x?y#z" = .ok v ∧
      v.Addresses ["api"] "../x?y#z" := by
  have hbase : Url.parse "http://runtime:9000/api/" =
      .ok ⟨"http", some ⟨"", "", .name "runtime", some 9000⟩, false, ["api", ""], none, none⟩ := by
    decide +kernel
  obtain ⟨t, ht, hids, -⟩ := urlFor_addresses_iff hbase (by decide +kernel) ⟨rfl, rfl⟩ 2
  obtain ⟨v, hv, -, -, -, -, hiff⟩ := hids "../x?y#z"
  have hpath : (Url.parse (trimEndSlashes "http://runtime:9000/api/")).toOption.map
      (fun t => Path.kept t.path) = some ["api"] := by
    decide +kernel
  rw [ht] at hpath
  obtain hkept : Path.kept t.path = ["api"] := Option.some.inj hpath
  exact ⟨v, hv, hkept ▸ hiff.2 (by decide +kernel)⟩

/-- Line breaks in an identifier are lost, and with them two dots leave the artifacts. -/
theorem urlFor_of_line_break :
    ∃ u v, Url.parse "http://runtime:9000" = .ok u ∧ u.kind = .service ∧ u.IsBare ∧
      (new "http://runtime:9000" 0).urlFor "a\tb" = .ok v ∧ ¬v.Addresses [] "a\tb" ∧
      (new "http://runtime:9000" 0).urlFor "ab" = .ok v ∧
      (new "http://runtime:9000" 0).urlFor "\n.." = .ok { v with path := [""] } ∧
      (new "http://runtime:9000" 0).urlFor "." = .ok { v with path := ["artifacts"] } := by
  refine ⟨⟨"http", some ⟨"", "", .name "runtime", some 9000⟩, false, [""], none, none⟩,
    ⟨"http", some ⟨"", "", .name "runtime", some 9000⟩, false, ["artifacts", "ab"], none, none⟩,
    by decide +kernel, by decide +kernel, ⟨rfl, rfl⟩, by decide +kernel, ?_, by decide +kernel,
    by decide +kernel, by decide +kernel⟩
  rintro ⟨s, hs, -, hdecode⟩
  obtain rfl : "ab" = s := by simpa using hs
  exact absurd hdecode (by decide +kernel)

end ArtifactClient

end RunWatch
