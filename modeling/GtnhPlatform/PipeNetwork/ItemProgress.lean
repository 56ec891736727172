import GtnhPlatform.PipeNetwork.ItemMoves

namespace GtnhPlatform.PipeNetwork

open List

namespace PipeNetworkManager

variable (manager : PipeNetworkManager)

variable {manager : PipeNetworkManager}

variable {network : Network}

variable {node : Nat}

variable {move : ItemMove}

variable {before after : List Network}

end PipeNetworkManager

end GtnhPlatform.PipeNetwork
