import GtnhPlatform.Net.OutgoingOrder
import GtnhPlatform.SimCore.DrainReplay
import GtnhPlatform.SimCore.DrainIdentity
import GtnhPlatform.Inventory.ChestContents
import GtnhPlatform.Crafting.CraftQueue
import GtnhPlatform.SimCore.ReservationRuns
import GtnhPlatform.SimCore.EnergyRetirement
import GtnhPlatform.SimCore.ChargeLaw
import GtnhPlatform.PipeNetwork.PortConvergence
import GtnhPlatform.PipeNetwork.CancellationLaw
import GtnhPlatform.MetaDb.RedeemOnce
import GtnhPlatform.MetaDb.ExchangeCooldown
import GtnhPlatform.MetaDb.QuestCompletion
import GtnhPlatform.ChunkStore.BlockMapLaw
import GtnhPlatform.ChunkStore.CallbackLaw
import GtnhPlatform.ChunkStore.VersionOrder
import GtnhPlatform.Quests.QuestReload
import GtnhPlatform.Quests.QuestGraphLaw
import GtnhPlatform.Actions.PlacementLaw
import GtnhPlatform.Router.Delivery
import GtnhPlatform.Router.HealthProbes
import GtnhPlatform.World.ContainerSessions
import GtnhPlatform.SimCore.OwnerRemoval
import GtnhPlatform.SimCore.MultiblockOwnership
import GtnhPlatform.PipeNetwork.FluidMixing
import GtnhPlatform.PipeNetwork.CableIndex
import GtnhPlatform.PipeNetwork.ItemProgress
import GtnhPlatform.PipeNetwork.EnergyConservation
import GtnhPlatform.PipeNetwork.EnergyConsume
import GtnhPlatform.Client.WorldLaw
import GtnhPlatform.Client.BufferConvergence
import GtnhPlatform.Actions.MachineSlotLaw
import GtnhPlatform.Actions.BreakLaw
import GtnhPlatform.Mining.DrillYields
import GtnhPlatform.SimCore.ItemConservation
import GtnhPlatform.PipeNetwork.HeatSafety
import GtnhPlatform.PipeNetwork.PacketDelivery
import GtnhPlatform.PipeNetwork.RetrySchedule
import GtnhPlatform.PipeNetwork.ItemPersistence
import GtnhPlatform.Sim.TransformerSystem
import GtnhPlatform.Mining.BatteryBuffer
import GtnhPlatform.Mining.AdjacentHeat
import GtnhPlatform.SimCore.InlineConsumption
import GtnhPlatform.SimCore.OutstandingRequests
import GtnhPlatform.Router.TopicPatterns
import GtnhPlatform.Inventory.ClickLimits
import GtnhPlatform.Inventory.GiveLaw
import GtnhPlatform.Registry.OpenHashMapLaw
import GtnhPlatform.Registry.ItemId
import GtnhPlatform.MetaDb.GrantLaw
import GtnhPlatform.MetaDb.FbVerifyLaw
import GtnhPlatform.Crafting.RecipeSelection
import GtnhPlatform.ChunkStore.SectionExact
import GtnhPlatform.ChunkStore.SectionRoundTrip
import GtnhPlatform.Inventory.DeadWindows
import GtnhPlatform.World.ContainerKeys
import GtnhPlatform.ChunkStore.LmdbStore
import GtnhPlatform.ChunkStore.FlushPipeline
import GtnhPlatform.ChunkStore.CasHandler
import GtnhPlatform.ChunkStore.UndecodableChunks
import GtnhPlatform.ChunkStore.RecycledChunks
import GtnhPlatform.ChunkStore.WireBlocks
import GtnhPlatform.ChunkStore.ChunkCache
import GtnhPlatform.EntityState.Storage
import GtnhPlatform.Mining.DrillSearch
import GtnhPlatform.Mining.DrillPayment
import GtnhPlatform.Client.PositionIndex
import GtnhPlatform.World.ContainerLaw
import GtnhPlatform.ChunkStore.SectionReads
import GtnhPlatform.Sim.BlockEvents
