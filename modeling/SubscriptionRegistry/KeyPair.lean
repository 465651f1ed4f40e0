import SubscriptionRegistry.Text.Quoted
import SubscriptionRegistry.Value

/-!
# Key pairs

A project has two key pairs in the encoded form that its key service hands out. A `KeyPair.Draft`
is a pair as a caller supplies it; `Draft.validate` accepts it if both parts are texts. `shown`
is the form for logs and consoles, which leaves the private key out.
-/

namespace SubscriptionRegistry

/-- An encoded key pair. -/
structure KeyPair where
  publicKey : String
  privateKey : String
deriving DecidableEq, Repr

namespace KeyPair

/-- A key pair as supplied: each part may be missing or hold any value. -/
structure Draft where
  publicKey : Option Value
  privateKey : Option Value
deriving Repr

/-- A part of a draft. -/
def Draft.part : Option Value → Except Issue String
  | none => .error .missing
  | some (.text s) => .ok s
  | some _ => .error .notText

/-- The key pair of a draft, or the issues of its fields. -/
def Draft.validate (d : Draft) : Except Issues KeyPair :=
  match Draft.part d.privateKey, Draft.part d.publicKey with
  | .ok priv, .ok pub => .ok ⟨pub, priv⟩
  | .error i, .ok _ => .error [("private_key", i)]
  | .ok _, .error j => .error [("public_key", j)]
  | .error i, .error j => .error [("private_key", i), ("public_key", j)]

/-- The draft of a pair. -/
def draft (k : KeyPair) : Draft :=
  ⟨some (.text k.publicKey), some (.text k.privateKey)⟩

/-- The public part of a pair, for display. -/
def shown (k : KeyPair) : String :=
  "public_key=" ++ Text.quote k.publicKey

/-- A pair for display, with the name of its type. -/
def shownTyped (k : KeyPair) : String :=
  "KeyPair(" ++ k.shown ++ ")"

@[simp] theorem validate_draft (k : KeyPair) : k.draft.validate = .ok k := rfl

end KeyPair

end SubscriptionRegistry
