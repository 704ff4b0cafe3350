import SeedNode.Config.Resolve
import SeedNode.Proofs.Effects

/-!
# What a resolved configuration satisfies

The message of the day is looked up only where it is enabled, so a configuration has one if and
only if it is.
-/

namespace SeedNode.Config

/-- There is a message of the day just where it is enabled. -/
def Announces (c : DaemonConfig) : Prop := c.motd.isSome = c.enableMotd

theorem resolve_announces (data : Table) :
    Returns (fun r => Announces r.config) (resolve data) := by
  rw [resolve]
  refine .bind (.any _) fun port _ => .bind (.any _) fun pid _ => .bind (.any _) fun keys _ =>
    .bind (.any _) fun ipv6 _ => .bind (.any _) fun fallback _ => .bind (.any _) fun lan _ =>
    .bind (.any _) fun relay _ => ?_
  split
  all_goals
    refine .bind (.any _) fun ports _ => .bind (.any _) fun tells _ => ?_
    split
  all_goals rename_i htells
  case isTrue.isTrue | isFalse.isTrue =>
    refine .bind (.map (Q := fun motd => motd.isSome = true) _ fun _ => rfl) fun motd hmotd => ?_
    refine .bind (.any _) fun _ _ => .pure ?_
    simp [Announces, hmotd, htells]
  all_goals
    refine .bind (.pure (P := fun motd => motd = none) rfl) fun motd hmotd => ?_
    refine .bind (.any _) fun _ _ => .pure ?_
    simp [Announces, hmotd, htells]

theorem load_announces {τ : Type} (path : Path) :
    Returns (fun r => Announces r.config) (load path : SessionM τ Resolved) :=
  .bind (.any _) fun data _ => (resolve_announces data).onLog

/-- The bytes that are announced are there just where announcing is enabled. -/
theorem Announces.motdBytes {c : DaemonConfig} (h : Announces c) :
    c.motdBytes.isSome = c.enableMotd := by
  rw [DaemonConfig.motdBytes]
  cases henabled : c.enableMotd with
  | true =>
      rw [Announces, henabled] at h
      simpa using h
  | false => rfl

end SeedNode.Config
