/-!
# Consent categories

The categories of storage and use that a visitor can consent to, and the groups of them that
analytics and advertising need.
-/

namespace TagAudit

/-- A category of consent. -/
inductive ConsentCategory
  | analyticsStorage
  | adStorage
  | adUserData
  | adPersonalization
  deriving DecidableEq, Repr, Inhabited

namespace ConsentCategory

/-- What advertising needs. -/
def advertising : List ConsentCategory := [adStorage, adUserData, adPersonalization]

/-- What analytics needs. -/
def analytics : List ConsentCategory := [analyticsStorage]

/-- All categories. -/
def all : List ConsentCategory := analytics ++ advertising

/-- The name of a category. -/
def name : ConsentCategory → String
  | analyticsStorage => "analytics_storage"
  | adStorage => "ad_storage"
  | adUserData => "ad_user_data"
  | adPersonalization => "ad_personalization"

/-- The category of a name. -/
def ofName? (name : String) : Option ConsentCategory := all.find? (·.name == name)

/-- Every category is among all of them. -/
theorem mem_all (category : ConsentCategory) : category ∈ all := by
  cases category <;> decide

/-- Every category has a name of its own. -/
theorem ofName?_name (category : ConsentCategory) : ofName? category.name = some category := by
  cases category <;> decide

end ConsentCategory

end TagAudit
