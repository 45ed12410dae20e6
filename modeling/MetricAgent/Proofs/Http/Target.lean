import Mathlib.Tactic.Common
import MetricAgent.Http.Delivery

/-!
The target of deliveries. A delivery is made for every URL that can be read and has a place for a
user, and it has the parts of that URL.
-/

namespace MetricAgent.Http.Delivery

open Config

variable {c : HttpConfig} {u : Url} {d : Delivery} {e : TargetError}

/-- The delivery to a URL, with the settings that go before its credentials. -/
def toUrl (c : HttpConfig) (o : PayloadOptions) (u : Url) : Delivery :=
  { url := u.withoutCredentials
    user := c.user <|> partOf u.username
    token := c.token <|> u.password.bind partOf
    networkTimeout := c.networkTimeout
    backoff := initialBackoff
    options := o }

lemma ofConfig_of_error {e : Url.UrlError} (h : Url.parse c.url.toList = .error e)
    (o : PayloadOptions) : ofConfig c o = .error (.malformed e) := by
  unfold ofConfig
  rw [h]
  rfl

lemma ofConfig_of_ok (h : Url.parse c.url.toList = .ok u) (o : PayloadOptions) :
    ofConfig c o = if u.allowsCredentials then .ok (toUrl c o u) else .error .noCredentials := by
  unfold ofConfig
  rw [h]
  rfl

lemma ofConfig_eq_ok {o : PayloadOptions} : ofConfig c o = .ok d ↔
    ∃ u, Url.parse c.url.toList = .ok u ∧ u.allowsCredentials = true ∧ toUrl c o u = d := by
  cases hu : Url.parse c.url.toList with
  | error e => simp [ofConfig_of_error hu]
  | ok u =>
    rw [ofConfig_of_ok hu]
    cases hallows : u.allowsCredentials <;> simp [hallows]

lemma ofConfig_eq_error {o : PayloadOptions} : ofConfig c o = .error e ↔
    (∃ e', Url.parse c.url.toList = .error e' ∧ .malformed e' = e) ∨
      ∃ u, Url.parse c.url.toList = .ok u ∧ u.allowsCredentials = false ∧ .noCredentials = e := by
  cases hu : Url.parse c.url.toList with
  | error e' => simp [ofConfig_of_error hu]
  | ok u =>
    rw [ofConfig_of_ok hu]
    cases hallows : u.allowsCredentials <;> simp [hallows]

end MetricAgent.Http.Delivery
