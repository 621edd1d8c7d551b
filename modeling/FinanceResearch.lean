import FinanceResearch.Runs.FrozenRun
import FinanceResearch.Runs.Quarantine
import FinanceResearch.Runs.Latest
import FinanceResearch.Brief.Totality
import FinanceResearch.Brief.Traceable
import FinanceResearch.Lib.JsonText
import FinanceResearch.Publish.Serialised
import FinanceResearch.Runs.Leases
import FinanceResearch.Quality.Consistent
import FinanceResearch.Scoring.Reranked
import FinanceResearch.Regimes.Agreement
import FinanceResearch.Config.Lossless
import FinanceResearch.Plans.Coherent
import FinanceResearch.Packets.Disclosed
import FinanceResearch.Runs.RunIds
import FinanceResearch.Runs.AppendOrder
import FinanceResearch.Plans.Expiry
import FinanceResearch.Plans.Caps
import FinanceResearch.Plans.Observations
import FinanceResearch.Skills.Bundle
import FinanceResearch.Setups.Liquidity
import FinanceResearch.Urls.Agreement
import FinanceResearch.Sampling.Listing
import FinanceResearch.Events.Monotone
import FinanceResearch.History.Rearranged
import FinanceResearch.Lib.Calls
import FinanceResearch.Lib.DecimalRoots
import FinanceResearch.Lib.Magnitudes
import FinanceResearch.Regimes.Total
import FinanceResearch.Config.Linear
import FinanceResearch.Brief.Numbers
import FinanceResearch.Events.MergedGates
import FinanceResearch.Http.Requests
import FinanceResearch.Events.MergedGates
