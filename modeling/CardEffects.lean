import CardEffects.Scenario.Play
import CardEffects.Json.Reader
import CardEffects.Proofs.Outcomes
import CardEffects.Proofs.StatLevels
import CardEffects.Proofs.StatShifts
import CardEffects.Proofs.Histories
import CardEffects.Proofs.AuraOutcomes
import CardEffects.Proofs.Registers
import CardEffects.Proofs.Runs
import CardEffects.Proofs.WellFormed
import CardEffects.Proofs.Seats
import CardEffects.Proofs.AuraAccounting
import CardEffects.Proofs.AuraActivity
import CardEffects.Proofs.AuraRemoval
import CardEffects.Proofs.Listening
import CardEffects.Proofs.AuraEndings
import CardEffects.Proofs.Developments
import CardEffects.Proofs.Transcripts
import CardEffects.Proofs.Watching
import CardEffects.Proofs.WatchedPasses
import CardEffects.Proofs.DispatchPasses
import CardEffects.Proofs.DispatchStack
import CardEffects.Proofs.Sides
import CardEffects.Proofs.AuraHoldings
import CardEffects.Proofs.AddedFields
import CardEffects.Proofs.ListenerAccounting
import CardEffects.Proofs.OrphanedEffects
import CardEffects.Proofs.RoundTrips
import CardEffects.Proofs.FailedAdditions
import CardEffects.Proofs.SmallSteps
import CardEffects.Proofs.Strides
import CardEffects.Proofs.Halting
import CardEffects.Proofs.Remainders
import CardEffects.Proofs.Termination
import CardEffects.Proofs.TurnOrder
import CardEffects.Proofs.RuledBoards
import CardEffects.Proofs.CalmFiring
import CardEffects.Proofs.RuleSafety
import CardEffects.Proofs.Selections
import CardEffects.Proofs.Scopes
import CardEffects.Proofs.Reversals
import CardEffects.Proofs.Refreshing
import CardEffects.Proofs.RefreshedAuras
import CardEffects.Proofs.SecondRefresh
import CardEffects.Proofs.Newcomers
import CardEffects.Proofs.ChangeReversal
import CardEffects.Proofs.ScopeFrames
import CardEffects.Proofs.ActSteps
import CardEffects.Proofs.PendingCalls
import CardEffects.Proofs.UnspentEndings
import CardEffects.Proofs.MarkedBoards
import CardEffects.Proofs.Lapses
import CardEffects.Proofs.SelfTermination
import CardEffects.Proofs.Standing
import CardEffects.Proofs.Gating
import CardEffects.Proofs.SelectionLaws
import CardEffects.Proofs.SeatNumbers
import CardEffects.Proofs.NameLookups
import CardEffects.Proofs.Registrations
import CardEffects.Proofs.BoardOrder
import CardEffects.Proofs.SubscriptionLog
import CardEffects.Proofs.NameKeys
