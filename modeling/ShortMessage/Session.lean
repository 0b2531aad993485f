import ShortMessage.Config.Document
import ShortMessage.Envelope

/-!
# Sessions

A session holds a configuration and takes steps with it. A step changes the configuration, or shows or
uses it, and answers with a reply. A step that fails leaves the configuration as it was, and the
session goes on.

* `Step.take` takes one step; `run` takes many and gathers what became of each.
-/

namespace ShortMessage

/-- A side of a message. -/
inductive Side
  | sender
  | recipient
  deriving DecidableEq, Repr

/-- The rules of a side. -/
def Config.rules (c : Config) : Side → Rules
  | .sender => c.sender
  | .recipient => c.recipient

/-- What a session can be asked to do. -/
inductive Step
  /-- Take the configuration of a document. -/
  | load (text : String)
  /-- Write the configuration and read it back. -/
  | reload
  | reset
  | setRules (side : Side) (rules : Rules)
  | swap
  | setDefaultFrom (phone : Option Phone)
  | setDefaultTo (phone : Option Phone)
  | validate
  | describe
  | send (sender : Option Phone) (receivers : List Phone) (text : String)
  | classify (side : Side) (phone : Option Phone)
  deriving DecidableEq, Repr

/-- What a step answers. -/
inductive Reply
  /-- The configuration after the step. -/
  | changed (c : Config)
  /-- The configuration is valid. -/
  | valid
  /-- The configuration in full. -/
  | described (c : Config)
  | sent (e : Envelope)
  | classified (a : Address)
  deriving DecidableEq, Repr

namespace Step

/-- A reply that comes with a changed configuration. -/
def become (c : Config) : Config × Reply := (c, .changed c)

/-- The configuration after a step, and the reply. -/
def take (c : Config) : Step → Attempt (Config × Reply)
  | load text => become <$> Config.load text
  | reload => become <$> c.reload
  | reset => pure (become .standard)
  | setRules .sender rules => pure (become { c with sender := rules })
  | setRules .recipient rules => pure (become { c with recipient := rules })
  | swap => pure (become c.swap)
  | setDefaultFrom phone => pure (become { c with defaultFrom := phone })
  | setDefaultTo phone => pure (become { c with defaultTo := phone })
  | validate => (fun _ => (c, .valid)) <$> Attempt.ofExcept c.validate
  | describe => pure (c, .described c)
  | send sender receivers text =>
    (fun e => (c, .sent e)) <$> Envelope.address c sender receivers text
  | classify side phone => (fun a => (c, .classified a)) <$> (c.rules side).classify phone

end Step

/-- What became of a list of steps: the configuration after them, the reply or the error of each, and
the events of all. -/
structure Session where
  config : Config
  replies : List (Except Error Reply)
  events : List Event

/-- Takes steps one after another. -/
def Session.run (c : Config) : List Step → Session
  | [] => ⟨c, [], []⟩
  | step :: steps =>
    let ⟨result, events⟩ := step.take c
    let (next, reply) := match result with
      | .ok (next, reply) => (next, Except.ok reply)
      | .error e => (c, .error e)
    let rest := run next steps
    ⟨rest.config, reply :: rest.replies, events ++ rest.events⟩

end ShortMessage
