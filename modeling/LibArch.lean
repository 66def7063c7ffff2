import LibArch.Bits
import LibArch.Address.Align
import LibArch.Address.Phys
import LibArch.Paging.Size
import LibArch.Address.Virt
import LibArch.Paging.Frame
import LibArch.Paging.Flags
import LibArch.Paging.PageTable
import LibArch.Paging.Mapper
import LibArch.Chips.Control
import LibArch.Chips.Registers
import LibArch.Memory
import LibArch.Descriptor
import LibArch.Interrupt.Apic
