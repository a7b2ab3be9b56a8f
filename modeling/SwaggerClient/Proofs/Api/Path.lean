import SwaggerClient.Proofs.Api.Operations
import SwaggerClient.Proofs.Naming.Url

namespace SwaggerClient.MethodSynthesis

variable {x : MethodSynthesis}

/-- What the path of a method is made of; a base path that is absent counts as empty. -/
def fragments (x : MethodSynthesis) (path : String) : List String :=
  [x.basePath.getD "", x.document.contents.basePath.getD "", path]

theorem methodPath_eq (x : MethodSynthesis) (path : String) :
    x.methodPath path = Url.join ("/" :: x.fragments path) :=
  Url.join_slash_join [x.basePath.getD "", x.document.contents.basePath.getD ""] [path]

variable {path : String} {item : PathItem} {httpMethod : HttpMethod} {op : Operation}
  {made : Method × List Model}

theorem path_eq (h : x.method path item httpMethod op = .ok made) :
    made.1.path = Url.join ("/" :: x.fragments path) := by
  have hmethod := methodFor_of_methodOf (o := (path, item, httpMethod, op)) h
  exact hmethod.path_eq.trans (x.methodPath_eq path)

/-- A method has a path in normal form: a slash and all pieces of the fragments, none of them empty, with single
slashes between them. Slashes at the ends of the fragments do not matter, nor does it matter in how many steps
they are joined. -/
theorem path_normal (h : x.method path item httpMethod op = .ok made) :
    made.1.path.toList = '/' :: ['/'].intercalate (Url.allPieces (x.fragments path)) ∧
    ¬['/', '/'] <:+: made.1.path.toList ∧
    (made.1.path.toList.getLast? = some '/' → made.1.path = "/") ∧
    (∀ (y : MethodSynthesis) (path' : String) (item' : PathItem) (httpMethod' : HttpMethod)
      (op' : Operation) (made' : Method × List Model),
        y.method path' item' httpMethod' op' = .ok made' →
          List.Forall₂ Url.SameInside (x.fragments path) (y.fragments path') →
            made'.1.path = made.1.path) ∧
    made.1.path = Url.join ("/" :: x.fragments path) ∧
    ∀ fragments more,
      Url.join ("/" :: Url.join fragments :: more) = Url.join ("/" :: (fragments ++ more)) := by
  have hpieces := Url.ne_nil_of_mem_allPieces (x.fragments path)
  have hlist := Url.toList_join_slash (x.fragments path)
  rw [path_eq h]
  refine ⟨hlist, ?_, fun hlast => ?_, fun y path' item' httpMethod' op' made' h' hsame => ?_, rfl,
    Url.join_slash_join⟩
  · rw [hlist]
    exact Url.no_double_slash hpieces
  · rw [hlist] at hlast
    have hnone := Url.no_last_slash hpieces hlast
    apply String.toList_inj.mp
    rw [hlist, hnone]
    rfl
  · rw [path_eq h']
    exact (Url.join_slash_congr (Url.allPieces_congr hsame)).symm

/-- The depot below a base path. -/
def publicDepot (basePath : String) : MethodSynthesis :=
  { depotMethods with basePath := some basePath }

theorem sameInside_api : Url.SameInside "/api//" "api" :=
  ⟨"api".toList, 1, 2, 0, 0, by decide, by decide⟩

/-- Below `/api//` and `api` the vans have the same path. -/
theorem path_normal_vans :
    ∃ made made', (publicDepot "/api//").method "/vans" {} .get emptyAnswer = .ok made ∧
      (publicDepot "api").method "/vans" {} .get emptyAnswer = .ok made' ∧
        made.1.path = "/api/vans" ∧ made'.1.path = made.1.path := by
  obtain ⟨made, hmade⟩ : ∃ made, (publicDepot "/api//").method "/vans" {} .get emptyAnswer = .ok made :=
    ⟨_, rfl⟩
  obtain ⟨made', hmade'⟩ : ∃ made, (publicDepot "api").method "/vans" {} .get emptyAnswer = .ok made :=
    ⟨_, rfl⟩
  obtain ⟨hlist, _, _, hsame, _⟩ := path_normal hmade
  have hself : ∀ text, Url.SameInside text text := fun text => ⟨text.toList, 0, 0, 0, 0, by simp, by simp⟩
  refine ⟨made, made', hmade, hmade', String.toList_inj.mp (hlist.trans (by decide)), ?_⟩
  exact hsame _ _ _ _ _ made' hmade' (.cons sameInside_api (.cons (hself _) (.cons (hself _) .nil)))

end SwaggerClient.MethodSynthesis
