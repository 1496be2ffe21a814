import GranularBonds.Archive.Checkpoint
import GranularBonds.Interaction.Checkpoint
import GranularBonds.Interaction.Description
import GranularBonds.Interaction.Session
import GranularBonds.Proofs.Session.BondLife
import GranularBonds.Proofs.Session.Decomposition
import GranularBonds.Proofs.Contact.Tally
import GranularBonds.Proofs.Session.BondCount
import GranularBonds.Proofs.Binary64
import GranularBonds.Proofs.Neighbors
import GranularBonds.Proofs.Session.Lifecycle
import GranularBonds.Proofs.Session.Refusal
import GranularBonds.Proofs.Contact.Past
import GranularBonds.Proofs.Contact.Tension
import GranularBonds.Proofs.Contact.Agreement
import GranularBonds.Proofs.Session.Forgetting
import GranularBonds.Proofs.Contact.Touch
import GranularBonds.Proofs.Contact.Breaks
import GranularBonds.Proofs.Session.Touching
import GranularBonds.Proofs.Session.Breaks
import GranularBonds.Proofs.Contact.Balance
import GranularBonds.Proofs.Session.BodyMass
import GranularBonds.Proofs.Contact.Renumbering
import GranularBonds.Proofs.Session.Rounds
import GranularBonds.Proofs.Archive.Checkpoint
import GranularBonds.Proofs.Contact.Repetition
import GranularBonds.Proofs.Session.Plane
import GranularBonds.Proofs.Session.Rotation
import GranularBonds.Proofs.Contact.Preview
import GranularBonds.Proofs.Session.Preview
import GranularBonds.Proofs.Contact.Rest
import GranularBonds.Proofs.Proximity
import GranularBonds.Proofs.Session.Formation
import GranularBonds.Proofs.Species.PairSet
import GranularBonds.Proofs.Species.Cutoff
import GranularBonds.Proofs.Contact.Skin
import GranularBonds.Proofs.Contact.EffectiveMass
import GranularBonds.Proofs.Session.Pruning
import GranularBonds.Proofs.Session.Division
import GranularBonds.Proofs.Species.Range
import GranularBonds.Proofs.Grouping
